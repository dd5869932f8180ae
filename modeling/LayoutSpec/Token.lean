import LayoutSpec.SyntaxError
import LayoutSpec.Text.Letter
import LayoutSpec.Text.Quoted

/-!
The tokens of a constraint line. A reader takes the unread text and leaves what it did not consume,
also when it fails, so that several of them read one line in turn. What a reader leaves is always
the end of what it was given.
-/

namespace LayoutSpec

open Text

/-- A reader of the unread text. -/
abbrev TokenReader := EStateM SyntaxCause (List Char)

namespace TokenReader

def skipBlanks : TokenReader Unit := fun cs => .ok () (trimStart cs)

def peek : TokenReader (Option Char) := fun cs => .ok cs.head? cs

def next : TokenReader (Option Char) := fun cs => .ok cs.head? cs.tail

def hasMore : TokenReader Bool := fun cs => .ok (!cs.isEmpty) cs

/-- Whether anything but blanks is left. -/
def hasToken : TokenReader Bool := fun cs => .ok (cs.any (!isBlank ·)) cs

/-- All text that is left. -/
def takeRest : TokenReader (List Char) := fun cs => .ok cs []

/-- Consumes the symbol if it comes next. -/
def symbol (s : String) : TokenReader Bool := fun cs =>
  match stripStart? s.toList cs with
  | some rest => .ok true rest
  | none => .ok false cs

/-- Consumes the word if it comes next and no letter follows it. Otherwise nothing is consumed, so
that another reader can try. -/
def keyword (w : String) : TokenReader Bool := fun cs =>
  match stripStart? w.toList cs with
  | some rest => if rest.head?.any isLetter then .ok false cs else .ok true rest
  | none => .ok false cs

/-- A run of characters that are not blank. -/
def word : TokenReader String := fun cs =>
  let cs := trimStart cs
  let w := cs.takeWhile (!isBlank ·)
  if w.isEmpty then .error .expectedWord cs
  else .ok (String.ofList w) (cs.dropWhile (!isBlank ·))

/-- Digits, as a number with the given sign. -/
def digits (negative : Bool) : TokenReader Int := fun cs =>
  let ds := cs.takeWhile Char.isDigit
  let rest := cs.dropWhile Char.isDigit
  if ds.isEmpty then .error (.expectedNumber (String.ofList (trim rest))) rest
  else
    let n : Int := natOfDigits ds
    match pixel? (if negative then -n else n) with
    | some n => .ok n rest
    | none =>
      .error (.numberOutOfRange (String.ofList (if negative then '-' :: ds else ds))) rest

/-- A pixel number. Blanks may stand before it and behind its sign. A number of more than 32 bits is
an error and not cut down. -/
def number : TokenReader Int := do
  skipBlanks
  let negative ← symbol "-"
  skipBlanks
  digits negative

/-- The part of a range behind its first number: a tolerance, an upper bound, or nothing, when the
number stands for itself. -/
def rangeFrom (first : Int) : TokenReader PixelRange := do
  skipBlanks
  if ← keyword "to" then
    return .ordered first (← number)
  else if ← symbol "±" then
    within first (← number)
  else if ← symbol "+-" then
    within first (← number)
  else
    return .exactly first
where
  /-- The values around the first number, whose bounds have to be pixel numbers. -/
  within (first tolerance : Int) : TokenReader PixelRange :=
    match PixelRange.around? first tolerance with
    | some range => pure range
    | none => throw (.boundOutOfRange first tolerance)

/-- The numbers of a range, without the unit. The bound of `>` is the number after the one that is
written, or the greatest pixel number. -/
def bounds : TokenReader PixelRange := do
  skipBlanks
  if ← symbol ">=" then
    return .atLeast (← number)
  else if ← symbol ">" then
    return .atLeast (min ((← number) + 1) maxPixel)
  else
    rangeFrom (← number)

/-- A range: `10px`, `10 to 20px`, `15 ± 5px`, `15 +- 5px`, `>= 10px` or `> 10px`. The unit may be
left out, and blanks may stand between any two tokens. -/
def range : TokenReader PixelRange := do
  let range ← bounds
  skipBlanks
  let _ ← keyword "px"
  return range

/-- The sides that come next, and what follows them. Blanks before a word that is no side are left
unread. -/
def leadingSides (cs : List Char) : List Side × List Char :=
  let start := trimStart cs
  match _named : Side.ofKeyword? (String.ofList (start.takeWhile isLetter)) with
  | none => ([], cs)
  | some side =>
    let (sides, rest) := leadingSides (start.dropWhile isLetter)
    (side :: sides, rest)
termination_by cs.length
decreasing_by
  change Side.ofKeyword? (String.ofList ((trimStart cs).takeWhile isLetter)) = some side at _named
  have hne : (trimStart cs).takeWhile isLetter ≠ [] := by
    intro hnil
    rw [hnil] at _named
    cases _named
  have hsplit := congrArg List.length
    (@List.takeWhile_append_dropWhile _ isLetter (trimStart cs))
  have hle : (trimStart cs).length ≤ cs.length := (List.dropWhile_sublist _).length_le
  have hpos := List.length_pos_iff.2 hne
  rw [List.length_append] at hsplit
  omega

def sides : TokenReader (List Side) := fun cs =>
  let (found, rest) := leadingSides cs
  if found.isEmpty then .error (.expectedSide (String.ofList (trim rest))) rest
  else .ok found rest

/-- A range and its sides, and nothing else. -/
def location : TokenReader Location := do
  let range ← range
  let sides ← sides
  if ← hasToken then
    throw (.unexpectedInLocation (String.ofList (trim (← get))))
  return ⟨range, sides⟩

/-- The result of a reader on a text of its own. -/
def result {α : Type} (reader : TokenReader α) (text : List Char) : Except SyntaxCause α :=
  match reader text with
  | .ok a _ => .ok a
  | .error e _ => .error e

/-- All text that is left, as locations between commas. Blanks alone are no location, so that a
constraint can do without any. -/
def locations : TokenReader (List Location) := fun cs =>
  if cs.all isBlank then .ok [] []
  else
    match (cs.splitOn ',').mapM fun entry => location.result (trim entry) with
    | .ok locations => .ok locations []
    | .error cause => .error cause []

/-- A quoted text. If no quote closes it, all text is consumed and it is an error. -/
def quoted : TokenReader String := fun cs =>
  match trimStart cs with
  | '"' :: rest =>
    match unquote rest with
    | some (text, left) => .ok (String.ofList text) left
    | none => .error .missingClosingQuote []
  | cs => .error (.expectedQuote (String.ofList (trim cs))) cs

end TokenReader

end LayoutSpec
