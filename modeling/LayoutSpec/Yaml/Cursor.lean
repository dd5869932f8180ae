/-!
Positions in a YAML text and the character classes that its layout rests on.
-/

namespace LayoutSpec.Yaml

/-- A position: characters before it in the whole text, lines before its own, and characters before
it in its line. -/
structure Mark where
  index : Nat := 0
  line : Nat := 0
  column : Nat := 0
deriving DecidableEq, Repr, Inhabited

namespace Mark

/-- The position behind some characters of a line. -/
def forward (m : Mark) (count : Nat) : Mark :=
  { m with index := m.index + count, column := m.column + count }

/-- The start of the next line, behind a line break of some characters. -/
def nextLine (m : Mark) (count : Nat) : Mark :=
  ⟨m.index + count, m.line + 1, 0⟩

end Mark

/-- A position and the text from there on. -/
structure Cursor where
  mark : Mark
  rest : List Char
deriving Inhabited

/-- The characters that may be in a text. -/
def isAllowed (c : Char) : Bool :=
  let n := c.toNat
  n = 0x09 || n = 0x0A || n = 0x0D || 0x20 ≤ n && n ≤ 0x7E || n = 0x85
    || 0xA0 ≤ n && n ≤ 0xFFFD || 0x10000 ≤ n

def isSpace (c : Char) : Bool :=
  c = ' ' || c = '\t'

def isBreak (c : Char) : Bool :=
  c = '\r' || c = '\n' || c = '\u0085' || c = '\u2028' || c = '\u2029'

/-- Whether a text starts with white space or is at its end. -/
def endsToken : List Char → Bool
  | [] => true
  | c :: _ => isSpace c || isBreak c

/-- Whether a text starts with a line break or is at its end. -/
def endsLine : List Char → Bool
  | [] => true
  | c :: _ => isBreak c

/-- The text of a line break within a scalar. Only the line and paragraph separators are kept. -/
def breakText (c : Char) : List Char :=
  if c = '\u2028' || c = '\u2029' then [c] else ['\n']

/-- Whether a line starts with the marker of a document's start or end. -/
def startsWithMarker : List Char → Bool
  | '-' :: '-' :: '-' :: rest | '.' :: '.' :: '.' :: rest => endsToken rest
  | _ => false

def isFlowSign (c : Char) : Bool :=
  c = ',' || c = '[' || c = ']' || c = '{' || c = '}'

/-- The characters of anchors, of directive names and of tag handles. -/
def isNameChar (c : Char) : Bool :=
  c.isAlphanum || c = '_' || c = '-'

namespace Cursor

/-- The position behind some characters of the line. -/
def forward (here : Cursor) (count : Nat) : Cursor :=
  ⟨here.mark.forward count, here.rest.drop count⟩

/-- The characters of a class and the position behind them. Line breaks are in no such class. -/
def takeWhile (p : Char → Bool) (here : Cursor) : List Char × Cursor :=
  let taken := here.rest.takeWhile p
  (taken, here.forward taken.length)

/-- The position behind the characters of a class. -/
def skipWhile (p : Char → Bool) (here : Cursor) : Cursor :=
  (here.takeWhile p).2

/-- The position behind a line break, if there is one. -/
def skipBreak (here : Cursor) : Cursor :=
  match here.rest with
  | '\r' :: '\n' :: rest => ⟨here.mark.nextLine 2, rest⟩
  | c :: rest => if isBreak c then ⟨here.mark.nextLine 1, rest⟩ else here
  | [] => here

/-- The position behind the rest of a line that holds nothing but white space and a comment. -/
def skipLine? (here : Cursor) : Option Cursor :=
  let here := here.skipWhile isSpace
  let here := if here.rest.head? = some '#' then here.skipWhile (!isBreak ·) else here
  if endsLine here.rest then some here.skipBreak else none

end Cursor

end LayoutSpec.Yaml
