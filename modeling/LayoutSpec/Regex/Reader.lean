import LayoutSpec.Regex.Basic
import LayoutSpec.Regex.Lexeme

/-!
Reading regular expressions. Flags hold from the place where they are set to the end of the group
around it. Patterns that are nested too deeply or would take up too much space are refused.
-/

namespace LayoutSpec.Regex

open Text

/-- What is left of a pattern, the flags that hold, and the names of the groups so far. -/
structure ReadState where
  rest : List Char
  flags : Flags := {}
  names : List (List Char) := []

abbrev PatternReader := StateT ReadState Option

/-- A part of a pattern, and how deeply its parts are nested. -/
structure Piece where
  regex : Regex
  depth : Nat := 0

/-- A set of characters as a part of a set, and how deeply its parts are nested. -/
structure SetPart where
  set : CharSet
  depth : Nat := 0

/-- A single sign of a pattern. A character may be given by the value of its byte. -/
inductive Atom where
  | literal (c : Char) (byte : Bool)
  | set (s : CharSet)
  | look (kind : Look)

namespace PatternReader

def rest : PatternReader (List Char) :=
  return (← get).rest

def setRest (rest : List Char) : PatternReader Unit :=
  modify fun s => { s with rest }

def flags : PatternReader Flags :=
  return (← get).flags

def peek : PatternReader Char := do
  (← rest).head?

def bump : PatternReader Unit := do
  setRest (← rest).tail

/-- Passes over what a verbose pattern ignores. -/
def skip : PatternReader Unit := do
  setRest (dropIgnored (← flags).verbose false (← rest))

/-- Passes over the next character and what is ignored behind it. -/
def advance : PatternReader Unit := do
  bump
  skip

/-- The same where the pattern must not end. -/
def advanceInside : PatternReader Unit := do
  advance
  guard !(← rest).isEmpty

/-- A set with the characters that differ in case alone, if case is ignored. -/
def fold (s : CharSet) : PatternReader CharSet := do
  let f ← flags
  return if !f.ignoreCase then s else if f.unicode then .anyCase s else .anyAsciiCase s

/-- A set or its complement. Without Unicode a complement would hold bytes that are no characters.
-/
def foldAndNegate (negated : Bool) (s : CharSet) : PatternReader CharSet := do
  let s ← fold s
  if !negated then return s
  else do
    guard (← flags).unicode
    return .complement s

def charOf (byte : Bool) (value : Nat) : PatternReader Atom := do
  return .literal (← char? value) byte

def hexDigits (value : Nat) : Nat → PatternReader Nat
  | 0 => return value
  | count + 1 => do
    let digit ← digit? 16 (← peek)
    advance
    hexDigits (16 * value + digit) count

/-- A character by its hexadecimal value: as many digits as the letter asks for, or digits between
braces. -/
def hexChar (count : Nat) : PatternReader Atom := do
  advanceInside
  match ← rest with
  | '{' :: inner => do
    let (digits, behind) ← braced? (← flags).verbose inner
    setRest behind
    charOf false (← numeral? 16 digits)
  | _ => do charOf (count = 2) (← hexDigits 0 count)

/-- A property: a letter, or a name between braces, with its kind or without. -/
def property (negated : Bool) : PatternReader Atom := do
  guard (← flags).unicode
  advanceInside
  match ← rest with
  | '{' :: inner => do
    let (name, behind) ← braced? (← flags).verbose inner
    setRest behind
    let split := name.zip (name.drop 1 ++ ['}']) |>.findIdx? (· = ('!', '='))
    let (set, unequal) ←
      match split with
      | some i => do some (← Unicode.setOfKind? (name.take i) (name.drop (i + 2)), true)
      | none =>
        match cutAt (· = ':') name <|> cutAt (· = '=') name with
        | some (kind, value) => do some (← Unicode.setOfKind? kind value, false)
        | none => do some (← Unicode.set? name, false)
    return .set (← foldAndNegate (negated != unequal) set)
  | c :: _ => do
    guard (c ≠ '\\')
    advance
    return .set (← foldAndNegate negated (← Unicode.set? [c]))
  | [] => failure

def word : PatternReader CharSet := do
  if (← flags).unicode then return Unicode.wordSet else asciiSet? "word"

/-- Digits, blanks and the characters of words by their letters. A capital letter stands for all
other characters. -/
def shorthand (letter : Char) : PatternReader Atom := do
  let unicode := (← flags).unicode
  let set ←
    match letter.toLower with
    | 'd' => if unicode then pure Unicode.digitSet else asciiSet? "digit"
    | 's' => if unicode then pure Unicode.whiteSpace else asciiSet? "space"
    | _ => word
  bump
  guard (unicode || letter.isLower)
  return .set (if letter.isLower then set else .complement set)

/-- The edge of a word, which may say between braces of what kind it is. If what is between the
braces does not start like that, they belong to a repetition. -/
def wordEdge : PatternReader Atom := do
  let word ← word
  match ← rest with
  | '{' :: inner =>
    let isPart (c : Char) : Bool := c.isAlpha || c = '-'
    let (name, behind) := takeWhileIgnoring isPart (← flags).verbose false inner
    if name.isEmpty then
      guard !behind.isEmpty
      return .look (.wordEdge word)
    else do
      guard (behind.head? = some '}')
      setRest behind.tail
      match String.ofList name with
      | "start" => return .look (.wordStart word)
      | "end" => return .look (.wordEnd word)
      | "start-half" => return .look (.noWordBefore word)
      | "end-half" => return .look (.noWordBehind word)
      | _ => failure
  | _ => return .look (.wordEdge word)

/-- What a backslash and the characters behind it stand for. -/
def escape : PatternReader Atom := do
  bump
  let c ← peek
  match c with
  | 'x' => hexChar 2
  | 'u' => hexChar 4
  | 'U' => hexChar 8
  | 'p' => property false
  | 'P' => property true
  | 'd' | 's' | 'w' | 'D' | 'S' | 'W' => shorthand c
  | c =>
    bump
    if isEscapable c then return .literal c false
    else
      match c with
      | 'a' => return .literal '\x07' false
      | 'f' => return .literal '\x0c' false
      | 't' => return .literal '\t' false
      | 'n' => return .literal '\n' false
      | 'r' => return .literal '\r' false
      | 'v' => return .literal '\x0b' false
      | 'A' => return .look .textStart
      | 'z' => return .look .textEnd
      | 'b' => wordEdge
      | 'B' => return .look (.noWordEdge (← word))
      | '<' => return .look (.wordStart (← word))
      | '>' => return .look (.wordEnd (← word))
      | _ => failure

/-- A sign between brackets. -/
def setAtom : PatternReader Atom := do
  if (← peek) = '\\' then escape
  else
    let c ← peek
    bump
    return .literal c false

/-- The character of a sign between brackets, which has to be one. Without Unicode it has to be
ASCII. -/
def setChar (a : Atom) : PatternReader Char :=
  match a with
  | .literal c _ => do
    guard ((← flags).unicode || c.val < 0x80)
    return c
  | _ => failure

/-- A range of characters, a character or a set without brackets. -/
def setRange : PatternReader SetPart := do
  let first ← setAtom
  skip
  let next ← peek
  let behind := glimpse? (← flags).verbose (← rest)
  if next ≠ '-' || behind = some ']' || behind = some '-' then
    match first with
    | .set s => return ⟨s, 0⟩
    | first => return ⟨.single (← setChar first), 0⟩
  else
    advanceInside
    let last ← setAtom
    let first ← setChar first
    let last ← setChar last
    guard (first ≤ last)
    return ⟨.range first last, 0⟩

/-- The parts of a set, of which the last one comes first. -/
def unionOf (parts : List SetPart) : SetPart :=
  match parts with
  | [] => ⟨.empty, 0⟩
  | [part] => part
  | parts => ⟨.unionAll (parts.reverse.map (·.set)), 1 + (parts.map (·.depth)).foldl max 0⟩

/-- What is before an operator between sets and the operator. -/
abbrev Pending := Option ((CharSet → CharSet → CharSet) × SetPart)

/-- Applies the operator that is still open. Operators are taken from the left to the right, and all
of them bind alike. -/
def close (pending : Pending) (parts : List SetPart) : PatternReader SetPart := do
  let right := unionOf parts
  match pending with
  | none => return right
  | some (operator, left) =>
    return ⟨operator (← fold left.set) (← fold right.set), 1 + max left.depth right.depth⟩

/-- Hyphens at the start of a set stand for themselves. -/
def leadingHyphens (fuel : Nat) (parts : List SetPart) : PatternReader (List SetPart) :=
  match fuel with
  | 0 => failure
  | fuel + 1 => do
    if (← peek) = '-' then
      advanceInside
      leadingHyphens fuel (⟨.single '-', 0⟩ :: parts)
    else return parts

/-- The start of a set: whether it is negated, and the parts at its start that stand for themselves.
-/
def setStart : PatternReader (Bool × List SetPart) := do
  advanceInside
  let negated := (← peek) = '^'
  if negated then advanceInside
  let parts ← leadingHyphens ((← rest).length + 1) []
  if parts.isEmpty && (← peek) = ']' then
    advanceInside
    return (negated, [⟨.single ']', 0⟩])
  else return (negated, parts)

mutual

def bracketed (fuel : Nat) : PatternReader SetPart :=
  match fuel with
  | 0 => failure
  | fuel + 1 => do
    let (negated, parts) ← setStart
    let inner ← setItems fuel none parts
    return ⟨← foldAndNegate negated inner.set, inner.depth + 1⟩

def setItems (fuel : Nat) (pending : Pending) (parts : List SetPart) : PatternReader SetPart :=
  match fuel with
  | 0 => failure
  | fuel + 1 => do
    skip
    match ← rest with
    | [] => failure
    | ']' :: behind =>
      setRest behind
      close pending parts
    | '&' :: '&' :: behind =>
      setRest behind
      let left ← close pending parts
      setItems fuel (some (.inter, left)) []
    | '-' :: '-' :: behind =>
      setRest behind
      let left ← close pending parts
      setItems fuel (some (.diff, left)) []
    | '~' :: '~' :: behind =>
      setRest behind
      let left ← close pending parts
      setItems fuel (some (.symmDiff, left)) []
    | '[' :: behind =>
      match namedAsciiSet? ('[' :: behind) with
      | some (set, negated, behind) =>
        setRest behind
        setItems fuel pending (⟨← foldAndNegate negated set, 0⟩ :: parts)
      | none =>
        let part ← bracketed fuel
        setItems fuel pending (part :: parts)
    | _ =>
      let part ← setRange
      setItems fuel pending (part :: parts)

end

def atom (a : Atom) : PatternReader Regex := do
  match a with
  | .set s => return .chars s
  | .look kind => return .look kind
  | .literal c byte =>
    guard ((← flags).unicode || !byte || c.val < 0x80)
    return .chars (← fold (.single c))

/-- Any character, or any that does not end a line. -/
def dot : PatternReader Regex := do
  let f ← flags
  guard f.unicode
  let ends := if f.dotAll then [] else if f.crlf then ['\n', '\r'] else ['\n']
  return .chars (.complement (.unionAll (ends.map .single)))

def lineStart : PatternReader Regex := do
  let f ← flags
  return .look (if !f.multiLine then .textStart else if f.crlf then .crlfStart else .lineStart)

def lineEnd : PatternReader Regex := do
  let f ← flags
  return .look (if !f.multiLine then .textEnd else if f.crlf then .crlfEnd else .lineEnd)

/-- A part that cannot be divided. -/
def single : PatternReader Regex := do
  match ← peek with
  | '\\' => do atom (← escape)
  | '.' =>
    bump
    dot
  | '^' =>
    bump
    lineStart
  | '$' =>
    bump
    lineEnd
  | c =>
    bump
    atom (.literal c false)

/-- The start of a group behind its opening parenthesis: a name, flags, or neither. Flags alone make
no group and hold up to the end of the one around them. -/
def groupStart : PatternReader (Option Unit) := do
  skip
  let text ← rest
  guard (["?=", "?!", "?<=", "?<!"].all fun look => (stripStart? look.toList text).isNone)
  match stripStart? "?P<".toList text <|> stripStart? "?<".toList text with
  | some text => do
    let (name, behind) ← groupName? text
    guard !(← get).names.contains name
    modify fun s => { s with rest := behind, names := name :: s.names }
    return some ()
  | none =>
    match text with
    | '?' :: text => do
      let (changed, unchanged, behind) ← flags? false false [] (← flags) text
      match behind with
      | ')' :: behind => do
        guard !unchanged
        modify fun s => { s with rest := behind, flags := changed }
        return none
      | _ =>
        modify fun s => { s with rest := behind.tail, flags := changed }
        return some ()
    | _ => return some ()

/-- A part, or nothing where flags are set. -/
abbrev Item := Option Piece

/-- Parts one after another, of which the last one comes first. -/
def seqOf (items : List Item) : Piece :=
  let pieces := items.reverse.filterMap id
  let depths := pieces.map (·.depth)
  match items with
  | [] | [_] => ⟨seqAll (pieces.map (·.regex)), depths.foldl max 0⟩
  | _ => ⟨seqAll (pieces.map (·.regex)), 1 + depths.foldl max 0⟩

/-- A part of which there may be several. -/
def repeated (items : List Item) (least : Nat) (most : Option Nat) : PatternReader (List Item) :=
  match items with
  | some piece :: items => return some ⟨.times piece.regex least most, piece.depth + 1⟩ :: items
  | _ => failure

/-- A question mark behind a repetition says which match is preferred. It makes no difference to
whether there is a match. -/
def skipPreference : PatternReader Unit := do
  if (← rest).head? = some '?' then bump

mutual

def branches (fuel : Nat) : PatternReader Piece :=
  match fuel with
  | 0 => failure
  | fuel + 1 => do
    let first ← branch fuel []
    if (← rest).head? = some '|' then
      let others ← otherBranches fuel
      let all := first :: others
      return ⟨altAll (all.map (·.regex)), 1 + (all.map (·.depth)).foldl max 0⟩
    else return first

def otherBranches (fuel : Nat) : PatternReader (List Piece) :=
  match fuel with
  | 0 => failure
  | fuel + 1 => do
    if (← rest).head? = some '|' then
      bump
      let next ← branch fuel []
      return next :: (← otherBranches fuel)
    else return []

/-- The parts of a branch behind some others, of which the last one comes first. -/
def branch (fuel : Nat) (items : List Item) : PatternReader Piece :=
  match fuel with
  | 0 => failure
  | fuel + 1 => do
    skip
    match (← rest).head? with
    | none | some ')' | some '|' => return seqOf items
    | some '(' =>
      let outer ← flags
      bump
      match ← groupStart with
      | none => branch fuel (none :: items)
      | some () =>
        let inner ← branches fuel
        guard ((← rest).head? = some ')')
        modify fun s => { s with flags := outer }
        bump
        branch fuel (some ⟨inner.regex, inner.depth + 1⟩ :: items)
    | some '[' =>
      let part ← bracketed fuel
      branch fuel (some ⟨.chars part.set, part.depth⟩ :: items)
    | some '?' => do
      let items ← repeated items 0 (some 1)
      bump
      skipPreference
      branch fuel items
    | some '*' => do
      let items ← repeated items 0 none
      bump
      skipPreference
      branch fuel items
    | some '+' => do
      let items ← repeated items 1 none
      bump
      skipPreference
      branch fuel items
    | some '{' => do
      let (least, most, behind) ← bounds? (← flags).verbose (← rest).tail
      let items ← repeated items least most
      setRest behind
      skip
      skipPreference
      branch fuel items
    | some _ =>
      let regex ← single
      branch fuel (some ⟨regex, 0⟩ :: items)

end

end PatternReader

/-- How deeply the parts of a pattern may be nested. -/
def maxDepth : Nat := 250

def compile? (pattern : List Char) : Option Regex := do
  let (piece, s) ← (PatternReader.branches (3 * pattern.length + 3)).run { rest := pattern }
  guard (s.rest.isEmpty && piece.depth ≤ maxDepth && piece.regex.size ≤ maxSize)
  return piece.regex

def compiles (pattern : List Char) : Bool :=
  (compile? pattern).isSome

end LayoutSpec.Regex
