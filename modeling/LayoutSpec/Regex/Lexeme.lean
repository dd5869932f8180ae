import LayoutSpec.Text.Blank
import LayoutSpec.Text.Decimal
import LayoutSpec.Text.Letter
import LayoutSpec.Text.Radix
import LayoutSpec.Unicode.Property

/-!
The small parts of a pattern: names, numerals, flags and the white space that verbose patterns
ignore. All functions here take the rest of a pattern and give what is left of it.
-/

namespace LayoutSpec.Regex

open Text

/-- How a part of a pattern is read. -/
structure Flags where
  ignoreCase : Bool := false
  multiLine : Bool := false
  dotAll : Bool := false
  unicode : Bool := true
  crlf : Bool := false
  verbose : Bool := false
deriving DecidableEq, Repr

/-- Whether a character of a verbose pattern is ignored, and whether it is in a comment. A comment
ends with its line. -/
def ignored (comment : Bool) (c : Char) : Bool :=
  comment || isBlank c || c = '#'

def stillComment (comment : Bool) (c : Char) : Bool :=
  (comment || c = '#') && c ≠ '\n'

/-- The rest of a pattern behind white space and comments, if the pattern is verbose. -/
def dropIgnored (verbose comment : Bool) : List Char → List Char
  | [] => []
  | c :: rest =>
    if verbose && ignored comment c then dropIgnored verbose (stillComment comment c) rest
    else c :: rest

/-- The characters of a class, with ignored ones between and behind them. -/
def takeWhileIgnoring (p : Char → Bool) (verbose comment : Bool) : List Char → List Char × List Char
  | [] => ([], [])
  | c :: rest =>
    if verbose && ignored comment c then
      takeWhileIgnoring p verbose (stillComment comment c) rest
    else if p c then
      let (taken, rest) := takeWhileIgnoring p verbose false rest
      (c :: taken, rest)
    else ([], c :: rest)

/-- The text up to a closing brace, and the rest behind that. -/
def braced? (verbose : Bool) (text : List Char) : Option (List Char × List Char) :=
  match takeWhileIgnoring (· ≠ '}') verbose false text with
  | (inner, '}' :: rest) => some (inner, rest)
  | _ => none

/-- The first character behind the next one that is no white space, if the pattern is verbose. A
number sign is passed over once, and what stands behind it counts. -/
def glimpse? (verbose : Bool) (text : List Char) : Option Char :=
  let behind := text.tail
  if !verbose then behind.head?
  else
    match behind.dropWhile isBlank with
    | '#' :: rest => (rest.dropWhile isBlank).head? <|> behind.head?
    | c :: _ => some c
    | [] => behind.head?

/-- A decimal count of 32 bits. Blanks may stand around it in any pattern. -/
def count? (verbose : Bool) (text : List Char) : Option (Nat × List Char) := do
  let (digits, rest) := takeWhileIgnoring Char.isDigit verbose false (text.dropWhile isBlank)
  let n ← nat? digits
  guard (n < 4294967296)
  return (n, rest.dropWhile isBlank)

/-- The bounds of a repetition behind its opening brace: the least number and the greatest one. -/
def bounds? (verbose : Bool) (text : List Char) : Option (Nat × Option Nat × List Char) := do
  let (least, rest) ← count? verbose (dropIgnored verbose false text)
  match rest with
  | '}' :: rest => return (least, some least, rest)
  | ',' :: rest =>
    match dropIgnored verbose false rest with
    | '}' :: rest => return (least, none, rest)
    | rest => do
      let (most, rest) ← count? verbose rest
      guard (least ≤ most)
      match rest with
      | '}' :: rest => return (least, some most, rest)
      | _ => none
  | _ => none

/-- Sets or clears the flag of a letter. -/
def Flags.set? (on : Bool) (letter : Char) (f : Flags) : Option Flags :=
  match letter with
  | 'i' => some { f with ignoreCase := on }
  | 'm' => some { f with multiLine := on }
  | 's' => some { f with dotAll := on }
  | 'u' => some { f with unicode := on }
  | 'R' => some { f with crlf := on }
  | 'x' => some { f with verbose := on }
  -- which of several matches is preferred has no influence on whether there is one
  | 'U' => some f
  | _ => none

/-- The flags up to a colon or a closing parenthesis. A hyphen before the last letters clears what
they stand for; no letter may be given twice. -/
def flags? (negated dangling : Bool) (seen : List Char) (f : Flags) :
    List Char → Option (Flags × Bool × List Char)
  | [] => none
  | c :: rest =>
    if c = ':' || c = ')' then
      if dangling then none else some (f, seen.isEmpty, c :: rest)
    else if c = '-' then
      if negated then none else flags? true true seen f rest
    else if seen.contains c then none
    else do
      let f ← f.set? (!negated) c
      flags? negated false (c :: seen) f rest

/-- The name of a group up to its closing angle bracket. -/
def groupName? (text : List Char) : Option (List Char × List Char) :=
  let isStart (c : Char) : Bool := c = '_' || isLetter c
  let isPart (c : Char) : Bool :=
    isStart c || c = '.' || c = '[' || c = ']'
      || [Unicode.decimalDigits, Unicode.letterNumbers, Unicode.otherNumbers].any (Unicode.isIn · c)
  match text.span (· ≠ '>') with
  | (first :: others, '>' :: rest) =>
    if isStart first && others.all isPart then some (first :: others, rest) else none
  | _ => none

/-- The sets of characters that have a name between colons, such as `[:alpha:]`. -/
def asciiSet? (name : String) : Option CharSet :=
  let set (runs : List (Nat × Nat)) : Option CharSet :=
    some (.runs (runs.map fun (first, last) => ⟨first, last, 1⟩))
  match name with
  | "alnum" => set [(0x30, 0x39), (0x41, 0x5A), (0x61, 0x7A)]
  | "alpha" => set [(0x41, 0x5A), (0x61, 0x7A)]
  | "ascii" => set [(0, 0x7F)]
  | "blank" => set [(0x9, 0x9), (0x20, 0x20)]
  | "cntrl" => set [(0, 0x1F), (0x7F, 0x7F)]
  | "digit" => set [(0x30, 0x39)]
  | "graph" => set [(0x21, 0x7E)]
  | "lower" => set [(0x61, 0x7A)]
  | "print" => set [(0x20, 0x7E)]
  | "punct" => set [(0x21, 0x2F), (0x3A, 0x40), (0x5B, 0x60), (0x7B, 0x7E)]
  | "space" => set [(0x9, 0xD), (0x20, 0x20)]
  | "upper" => set [(0x41, 0x5A)]
  | "word" => set [(0x30, 0x39), (0x41, 0x5A), (0x5F, 0x5F), (0x61, 0x7A)]
  | "xdigit" => set [(0x30, 0x39), (0x41, 0x46), (0x61, 0x66)]
  | _ => none

/-- A named set with its brackets and colons: whether it is negated, and the rest. -/
def namedAsciiSet? (text : List Char) : Option (CharSet × Bool × List Char) := do
  let text ← stripStart? ['[', ':'] text
  let (negated, text) := match text with
    | '^' :: text => (true, text)
    | text => (false, text)
  match text.span (· ≠ ':') with
  | (name, ':' :: ']' :: rest) => do
    let set ← asciiSet? (String.ofList name)
    return (set, negated, rest)
  | _ => none

/-- A character that stands for itself behind a backslash: every ASCII character that is neither a
letter nor a digit nor an angle bracket. -/
def isEscapable (c : Char) : Bool :=
  c.val < 0x80 && !c.isAlphanum && c ≠ '<' && c ≠ '>'

end LayoutSpec.Regex
