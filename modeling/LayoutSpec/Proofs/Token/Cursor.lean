import LayoutSpec.Proofs.Token.Basic

/-!
Readers at a position of a text. The readers of tokens take the text that is left; here each of them
moves a position in the whole text, and takes parts of the text between two positions. A part that
the text does not have is an outcome of its own. A reader at a position within the text never has
this outcome, and it does what its counterpart does with the text behind the position.
-/

namespace LayoutSpec

open Text

/-- A text and the number of its characters that are read. -/
structure Cursor where
  text : List Char
  position : Nat
deriving DecidableEq, Repr

namespace Cursor

inductive Stop where
  | fault (cause : SyntaxCause)
  /-- A part of the text is asked for that the text does not have. -/
  | outOfBounds
deriving DecidableEq, Repr

def unread (c : Cursor) : List Char :=
  c.text.drop c.position

def next? (c : Cursor) : Option (Char × Cursor) :=
  c.text[c.position]?.map fun d => (d, { c with position := c.position + 1 })

theorem position_of_next? {c after : Cursor} {d : Char} (h : c.next? = some (d, after)) :
    after.text = c.text ∧ after.position = c.position + 1 ∧ c.position < c.text.length := by
  obtain ⟨e, hchar, heq⟩ := Option.map_eq_some_iff.mp h
  obtain ⟨-, rfl⟩ := Prod.mk.inj heq
  obtain ⟨hlt, -⟩ := List.getElem?_eq_some_iff.mp hchar
  exact ⟨rfl, rfl, hlt⟩

theorem left_lt_of_next? {c after : Cursor} {d : Char} (h : c.next? = some (d, after)) :
    after.text.length - after.position < c.text.length - c.position := by
  obtain ⟨htext, hposition, hlt⟩ := position_of_next? h
  rw [htext, hposition]
  omega

/-- Moves behind the characters of the class that come next. -/
def skip (p : Char → Bool) (c : Cursor) : Cursor :=
  match _hnext : c.next? with
  | some (d, after) => if p d then skip p after else c
  | none => c
termination_by c.text.length - c.position
decreasing_by exact left_lt_of_next? _hnext

theorem skip_forward (p : Char → Bool) (c : Cursor) :
    (c.skip p).text = c.text ∧ c.position ≤ (c.skip p).position := by
  fun_induction skip p c with
  | case1 c d after hnext hd ih =>
      obtain ⟨htext, hposition, -⟩ := position_of_next? hnext
      exact ⟨ih.1.trans htext, by omega⟩
  | case2 c d after hnext hd => exact ⟨rfl, Nat.le_refl _⟩
  | case3 c hnext => exact ⟨rfl, Nat.le_refl _⟩

end Cursor

/-- A reader that moves the position of a cursor. -/
abbrev CursorReader := EStateM Cursor.Stop Cursor

namespace CursorReader

def fail {α : Type} (cause : SyntaxCause) : CursorReader α :=
  throw (.fault cause)

def slice (first last : Nat) : CursorReader (List Char) := do
  let c ← get
  if first ≤ last ∧ last ≤ c.text.length then
    return (c.text.take last).drop first
  throw .outOfBounds

def rest : CursorReader (List Char) := do
  let c ← get
  slice c.position c.text.length

def hasMore : CursorReader Bool := do
  let c ← get
  return c.position < c.text.length

def hasToken : CursorReader Bool := do
  return (← rest).any (!isBlank ·)

def peek : CursorReader (Option Char) := do
  let c ← get
  return c.text[c.position]?

def next : CursorReader (Option Char) := do
  match (← get).next? with
  | some (d, after) =>
    set after
    return some d
  | none => return none

def skipBlanks : CursorReader Unit :=
  modify (·.skip isBlank)

def takeRest : CursorReader (List Char) := do
  let text ← rest
  modify fun c => { c with position := c.text.length }
  return text

def takeWhile (p : Char → Bool) : CursorReader (List Char) := do
  let start := (← get).position
  modify (·.skip p)
  slice start (← get).position

/-- Whether the characters come next. The text may be too short for them. -/
def comesNext (start : List Char) : CursorReader Bool := do
  let c ← get
  if c.position + start.length ≤ c.text.length then
    return (← slice c.position (c.position + start.length)) = start
  else
    return false

def consume (n : Nat) : CursorReader Bool := do
  modify fun c => { c with position := c.position + n }
  return true

def symbol (s : String) : CursorReader Bool := do
  if ← comesNext s.toList then
    consume s.toList.length
  else
    return false

def keyword (w : String) : CursorReader Bool := do
  if ← comesNext w.toList then
    let c ← get
    if c.text[c.position + w.toList.length]?.any isLetter then
      return false
    else
      consume w.toList.length
  else
    return false

def word : CursorReader String := do
  skipBlanks
  let w ← takeWhile (!isBlank ·)
  if w.isEmpty then
    fail .expectedWord
  return String.ofList w

def digits (negative : Bool) : CursorReader Int := do
  let ds ← takeWhile Char.isDigit
  if ds.isEmpty then
    fail (.expectedNumber (String.ofList (trim (← rest))))
  let n : Int := natOfDigits ds
  match pixel? (if negative then -n else n) with
  | some n => return n
  | none => fail (.numberOutOfRange (String.ofList (if negative then '-' :: ds else ds)))

def number : CursorReader Int := do
  skipBlanks
  let negative ← symbol "-"
  skipBlanks
  digits negative

def rangeFrom (first : Int) : CursorReader PixelRange := do
  skipBlanks
  if ← keyword "to" then
    return .ordered first (← number)
  else if ← symbol "±" then
    within first (← number)
  else if ← symbol "+-" then
    within first (← number)
  else
    return .exactly first
where
  within (first tolerance : Int) : CursorReader PixelRange :=
    match PixelRange.around? first tolerance with
    | some range => pure range
    | none => fail (.boundOutOfRange first tolerance)

def bounds : CursorReader PixelRange := do
  skipBlanks
  if ← symbol ">=" then
    return .atLeast (← number)
  else if ← symbol ">" then
    return .atLeast (min ((← number) + 1) maxPixel)
  else
    rangeFrom (← number)

def range : CursorReader PixelRange := do
  let range ← bounds
  skipBlanks
  let _ ← keyword "px"
  return range

/-- The side that the next run of letters names. -/
def nextSide : CursorReader (Option Side) := do
  skipBlanks
  let w ← takeWhile isLetter
  return Side.ofKeyword? (String.ofList w)

theorem slice_eq (first last : Nat) (c : Cursor) :
    slice first last c =
      if first ≤ last ∧ last ≤ c.text.length then .ok ((c.text.take last).drop first) c
      else .error .outOfBounds c := by
  by_cases h : first ≤ last ∧ last ≤ c.text.length
  · rw [if_pos h]
    change (if first ≤ last ∧ last ≤ c.text.length then _ else _ : CursorReader _) c = _
    rw [if_pos h]
    rfl
  · rw [if_neg h]
    change (if first ≤ last ∧ last ≤ c.text.length then _ else _ : CursorReader _) c = _
    rw [if_neg h]
    rfl

theorem takeWhile_eq (p : Char → Bool) (c : Cursor) :
    takeWhile p c = slice c.position (c.skip p).position (c.skip p) :=
  rfl

theorem nextSide_eq (c : Cursor) :
    nextSide c = match takeWhile isLetter (c.skip isBlank) with
      | .ok w after => .ok (Side.ofKeyword? (String.ofList w)) after
      | .error stop after => .error stop after := by
  rw [nextSide, TokenReader.run_bind]
  change (takeWhile isLetter >>= _) (c.skip isBlank) = _
  rw [TokenReader.run_bind]
  cases takeWhile isLetter (c.skip isBlank) <;> rfl

/-- Where a side is named, the position moves on within the text. This is why the loop over the
sides ends. -/
theorem left_lt_of_nextSide {c after : Cursor} {side : Side}
    (h : nextSide c = .ok (some side) after) :
    after.text.length - after.position < c.text.length - c.position := by
  obtain ⟨hblankText, hblankPosition⟩ := Cursor.skip_forward isBlank c
  obtain ⟨htext, hposition⟩ := Cursor.skip_forward isLetter (c.skip isBlank)
  rw [nextSide_eq, takeWhile_eq, slice_eq] at h
  split_ifs at h with hbounds
  · obtain ⟨hside, rfl⟩ := EStateM.Result.ok.inj h
    rw [htext, hblankText] at hbounds ⊢
    by_cases heq : (c.skip isBlank).position = ((c.skip isBlank).skip isLetter).position
    · rw [heq, List.drop_take, Nat.sub_self, List.take_zero] at hside
      cases hside
    · omega

/-- The sides that come next. The position goes back before what is no side. -/
def sideRun (c : Cursor) : EStateM.Result Cursor.Stop Cursor (List Side) :=
  match _named : nextSide c with
  | .ok (some side) after =>
    match sideRun after with
    | .ok sides last => .ok (side :: sides) last
    | .error stop last => .error stop last
  | .ok none _ => .ok [] c
  | .error stop after => .error stop after
termination_by c.text.length - c.position
decreasing_by exact left_lt_of_nextSide _named

def sides : CursorReader (List Side) := do
  let found ← sideRun
  if found.isEmpty then
    fail (.expectedSide (String.ofList (trim (← rest))))
  return found

def location : CursorReader Location := do
  let range ← range
  let sides ← sides
  if ← hasToken then
    fail (.unexpectedInLocation (String.ofList (trim (← rest))))
  return ⟨range, sides⟩

/-- The result of a reader at the start of a text of its own. -/
def result {α : Type} (reader : CursorReader α) (text : List Char) : Except Cursor.Stop α :=
  match reader ⟨text, 0⟩ with
  | .ok a _ => .ok a
  | .error stop _ => .error stop

def locations : CursorReader (List Location) := do
  let text ← takeRest
  if text.all isBlank then
    return []
  match (text.splitOn ',').mapM fun entry => location.result (trim entry) with
  | .ok locations => return locations
  | .error stop => throw stop

/-- The text up to the closing quote, if there is one. A backslash gives the character behind it. -/
def untilQuote (c : Cursor) : Option (List Char) × Cursor :=
  match _first : c.next? with
  | none => (none, c)
  | some (d, after) =>
    if d = '"' then
      (some [], after)
    else if d = '\\' then
      match _second : after.next? with
      | none => (none, after)
      | some (escaped, last) =>
        let (text, last) := untilQuote last
        (text.map (escaped :: ·), last)
    else
      let (text, last) := untilQuote after
      (text.map (d :: ·), last)
termination_by c.text.length - c.position
decreasing_by
  · exact (Cursor.left_lt_of_next? _second).trans (Cursor.left_lt_of_next? _first)
  · exact Cursor.left_lt_of_next? _first

def quoted : CursorReader String := do
  skipBlanks
  if !(← symbol "\"") then
    fail (.expectedQuote (String.ofList (trim (← rest))))
  match ← modifyGet untilQuote with
  | some text => return String.ofList text
  | none => fail .missingClosingQuote

end CursorReader

end LayoutSpec
