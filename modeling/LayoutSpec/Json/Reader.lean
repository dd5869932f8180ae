import LayoutSpec.Json.Basic
import LayoutSpec.Text.Decimal
import LayoutSpec.Text.Radix

/-!
Reading JSON text. A fault is reported with the line and the column up to which the text was read;
a column counts bytes.
-/

namespace LayoutSpec

inductive JsonFault where
  | endInValue | endInList | endInObject | endInString
  | expectedValue | expectedIdentifier | expectedColon
  | expectedListCommaOrEnd | expectedObjectCommaOrEnd
  | keyMustBeString | trailingComma | trailingCharacters
  | invalidNumber | numberOutOfRange
  | invalidEscape | loneSurrogate | unpairedSurrogate | controlCharacter
  | tooDeep
deriving DecidableEq, Repr

def JsonFault.message : JsonFault → String
  | .endInValue => "EOF while parsing a value"
  | .endInList => "EOF while parsing a list"
  | .endInObject => "EOF while parsing an object"
  | .endInString => "EOF while parsing a string"
  | .expectedValue => "expected value"
  | .expectedIdentifier => "expected ident"
  | .expectedColon => "expected `:`"
  | .expectedListCommaOrEnd => "expected `,` or `]`"
  | .expectedObjectCommaOrEnd => "expected `,` or `\x7d`"
  | .keyMustBeString => "key must be a string"
  | .trailingComma => "trailing comma"
  | .trailingCharacters => "trailing characters"
  | .invalidNumber => "invalid number"
  | .numberOutOfRange => "number out of range"
  | .invalidEscape => "invalid escape"
  | .loneSurrogate => "lone leading surrogate in hex escape"
  | .unpairedSurrogate => "unexpected end of hex escape"
  | .controlCharacter => "control character (\\u0000-\\u001F) found while parsing a string"
  | .tooDeep => "recursion limit exceeded"

/-- A fault and the place up to which the text was read. -/
structure JsonError where
  fault : JsonFault
  line : Nat
  column : Nat
deriving DecidableEq, Repr

def JsonError.message (e : JsonError) : String :=
  e.fault.message ++ " at line " ++ toString e.line ++ " column " ++ toString e.column

namespace Json

open Text

/-- A fault met before the text `rest`, of which `ahead` bytes were looked at. -/
structure Stop where
  fault : JsonFault
  rest : List Char
  ahead : Nat := 0

/-- A reader gives a value and the text behind it. -/
abbrev Reader (α : Type) := List Char → Except Stop (α × List Char)

/-- The fault at the character that comes next. -/
def stopAt {α : Type} (fault : JsonFault) (rest : List Char) : Except Stop α :=
  .error ⟨fault, rest, 1⟩

/-- The fault at the end of what was consumed. -/
def stopBefore {α : Type} (fault : JsonFault) (rest : List Char) : Except Stop α :=
  .error ⟨fault, rest, 0⟩

def isSpace (c : Char) : Bool :=
  c = ' ' || c = '\n' || c = '\t' || c = '\r'

def skipSpace (cs : List Char) : List Char :=
  cs.dropWhile isSpace

/-- The rest of a word whose first letter was consumed. -/
def readWord (value : Json) : List Char → Reader Json
  | [], cs => .ok (value, cs)
  | _ :: _, [] => stopBefore .endInValue []
  | w :: ws, c :: cs => if c = w then readWord value ws cs else stopAt .expectedIdentifier (c :: cs)

/-- Numbers up to this one are whole if they have no sign, point or exponent. -/
def maxWhole : Nat := 18446744073709551615

/-- A float from decimal digits and an exponent of ten: the digits are rounded to a float, which is
multiplied with or divided by a power of ten, in steps of `10^308` below the range of floats. -/
def scale (fuel : Nat) (x : Float) (exponent : Int) : Option Float :=
  match fuel with
  | 0 => some x
  | fuel + 1 =>
    if exponent.natAbs ≤ 308 then
      let power := Float.ofScientific 1 false exponent.natAbs
      if 0 ≤ exponent then
        let y := x * power
        if y.isInf then none else some y
      else some (x / power)
    else if x == 0 then some x
    else if 0 ≤ exponent then none
    else scale fuel (x / Float.ofScientific 1 false 308) (exponent + 308)

/-- A float from its sign, at most 64 bits of digits, and its exponent of ten. A number that is too
large for a float is a fault. -/
def makeFloat (negative : Bool) (digits : Nat) (exponent : Int) (rest : List Char) :
    Except Stop (JsonNumber × List Char) :=
  match scale 20 (Float.ofScientific digits false 0) (max exponent (-4000)) with
  | none => stopBefore .numberOutOfRange rest
  | some x => .ok (.float (if negative then -x else x), rest)

/-- An exponent beyond 32 bits. -/
def hugeExponent : Nat := 2147483647

/-- The exponent behind its `e`: a sign may stand before its digits. -/
def readExponent (negative : Bool) (digits : Nat) (start : Int) (cs : List Char) :
    Except Stop (JsonNumber × List Char) :=
  let (down, cs) := match cs with
    | '+' :: cs => (false, cs)
    | '-' :: cs => (true, cs)
    | cs => (false, cs)
  match cs with
  | [] => stopBefore .endInValue []
  | c :: _ =>
    if !c.isDigit then stopAt .invalidNumber cs
    else
      let exponent := natOfDigits (cs.takeWhile Char.isDigit)
      let rest := cs.dropWhile Char.isDigit
      if hugeExponent < exponent then
        if digits ≠ 0 && !down then stopBefore .numberOutOfRange (dropDigits cs)
        else .ok (.float (if negative then -0.0 else 0.0), rest)
      else
        makeFloat negative digits (if down then start - exponent else start + exponent) rest
where
  /-- What follows the last digit that leaves the exponent within 32 bits. -/
  dropDigits (cs : List Char) : List Char :=
    let ds := cs.takeWhile Char.isDigit
    let fitting := (List.range ds.length).foldl
      (fun best n => if natOfDigits (ds.take (n + 1)) ≤ hugeExponent then n + 1 else best) 0
    cs.drop (fitting + 1)

/-- As many digits as leave the number within 64 bits, how many they are, and the text behind. -/
def takeDigits (digits count : Nat) : List Char → Nat × Nat × List Char
  | [] => (digits, count, [])
  | c :: cs =>
    if c.isDigit && digits * 10 + (c.toNat - 48) ≤ maxWhole then
      takeDigits (digits * 10 + (c.toNat - 48)) (count + 1) cs
    else (digits, count, c :: cs)

/-- What follows the digits that are kept: an exponent, or the end of the number. -/
def finishFloat (negative : Bool) (digits : Nat) (exponent : Int) (cs : List Char) :
    Except Stop (JsonNumber × List Char) :=
  match cs with
  | 'e' :: cs | 'E' :: cs => readExponent negative digits exponent cs
  | cs => makeFloat negative digits exponent cs

/-- The digits behind a point. Those that do not fit into 64 bits any more are dropped. -/
def readFraction (negative : Bool) (digits : Nat) (exponent : Int) (cs : List Char) :
    Except Stop (JsonNumber × List Char) :=
  let (digits, count, rest) := takeDigits digits 0 cs
  if count = 0 && !(rest.head?.any Char.isDigit) then
    if rest.isEmpty then stopBefore .endInValue [] else stopAt .invalidNumber rest
  else
    finishFloat negative digits (exponent - count) (rest.dropWhile Char.isDigit)

/-- A number behind its sign. Without point and exponent it is whole if it fits into 64 bits, except
for minus zero. -/
def readNumber (negative : Bool) (cs : List Char) : Except Stop (JsonNumber × List Char) :=
  match cs with
  | [] => stopBefore .endInValue []
  | '0' :: rest =>
    if rest.head?.any Char.isDigit then stopAt .invalidNumber rest
    else afterDigits 0 0 rest
  | c :: _ =>
    if !c.isDigit then stopAt .invalidNumber cs
    else
      let (digits, _, rest) := takeDigits 0 0 cs
      let dropped := rest.takeWhile Char.isDigit
      afterDigits digits dropped.length (rest.dropWhile Char.isDigit)
where
  afterDigits (digits dropped : Nat) (rest : List Char) : Except Stop (JsonNumber × List Char) :=
    match rest with
    | '.' :: rest => readFraction negative digits dropped rest
    | 'e' :: _ | 'E' :: _ => finishFloat negative digits dropped rest
    | rest =>
      if dropped ≠ 0 then makeFloat negative digits dropped rest
      else if !negative then .ok (.whole digits, rest)
      else if 0 < digits && digits ≤ 9223372036854775808 then .ok (.whole (-digits), rest)
      else makeFloat true digits 0 rest

def readHex (cs : List Char) : Except Stop (Nat × List Char) :=
  if (String.ofList (cs.take 4)).utf8ByteSize < 4 then stopBefore .endInString []
  else
    match numeral? 16 (cs.take 4) with
    | some unit => .ok (unit, cs.drop 4)
    | none => .error ⟨.invalidEscape, cs, 4⟩

/-- The character behind `\u`: one unit of UTF-16, or two of them if the first is a high surrogate.
-/
def readUnits (cs : List Char) : Except Stop (Char × List Char) := do
  let (high, cs) ← readHex cs
  if 0xDC00 ≤ high && high ≤ 0xDFFF then
    stopBefore .loneSurrogate cs
  else if high < 0xD800 || 0xDBFF < high then
    return (Char.ofNat high, cs)
  else
    match cs with
    | '\\' :: 'u' :: rest =>
      let (low, rest) ← readHex rest
      if low < 0xDC00 || 0xDFFF < low then stopBefore .loneSurrogate rest
      else return (Char.ofNat (0x10000 + (high - 0xD800) * 0x400 + (low - 0xDC00)), rest)
    | [] | ['\\'] => stopBefore .endInString []
    | '\\' :: rest => stopAt .unpairedSurrogate rest
    | rest => stopAt .unpairedSurrogate rest

/-- The character behind a backslash. -/
def readEscape (cs : List Char) : Except Stop (Char × List Char) :=
  match cs with
  | [] => stopBefore .endInString []
  | '"' :: cs => .ok ('"', cs)
  | '\\' :: cs => .ok ('\\', cs)
  | '/' :: cs => .ok ('/', cs)
  | 'b' :: cs => .ok ('\x08', cs)
  | 'f' :: cs => .ok ('\x0c', cs)
  | 'n' :: cs => .ok ('\n', cs)
  | 'r' :: cs => .ok ('\r', cs)
  | 't' :: cs => .ok ('\t', cs)
  | 'u' :: cs => readUnits cs
  | cs => stopAt .invalidEscape cs

def readString (fuel : Nat) (seen : List Char) (cs : List Char) :
    Except Stop (String × List Char) :=
  match fuel, cs with
  | 0, cs => stopBefore .endInString cs
  | _ + 1, [] => stopBefore .endInString []
  | _ + 1, '"' :: rest => .ok (String.ofList seen.reverse, rest)
  | fuel + 1, '\\' :: rest => do
    let (c, rest) ← readEscape rest
    readString fuel (c :: seen) rest
  | fuel + 1, c :: rest =>
    if c.toNat < 0x20 then stopAt .controlCharacter cs
    else readString fuel (c :: seen) rest

/-- How deep lists and objects may be nested, the text around them included. -/
def maxDepth : Nat := 128

mutual

/-- A value. `depth` is the nesting that is left; `fuel` bounds the steps, of which a character
needs two at most. -/
def readValue (fuel depth : Nat) (cs : List Char) : Except Stop (Json × List Char) :=
  match fuel with
  | 0 => stopAt .expectedValue cs
  | fuel + 1 =>
    let cs := skipSpace cs
    match cs with
    | [] => stopBefore .endInValue []
    | 'n' :: rest => readWord .null "ull".toList rest
    | 't' :: rest => readWord (.bool true) "rue".toList rest
    | 'f' :: rest => readWord (.bool false) "alse".toList rest
    | '-' :: rest => (readNumber true rest).map fun (n, rest) => (.number n, rest)
    | '"' :: rest =>
      (readString (rest.length + 1) [] rest).map fun (s, rest) => (.string s, rest)
    | '[' :: rest =>
      if depth ≤ 1 then stopAt .tooDeep cs else readItems fuel (depth - 1) [] rest
    | '{' :: rest =>
      if depth ≤ 1 then stopAt .tooDeep cs else readMembers fuel (depth - 1) [] rest
    | c :: _ =>
      if c.isDigit then (readNumber false cs).map fun (n, rest) => (.number n, rest)
      else stopAt .expectedValue cs

/-- The items of a list from the next one on, behind those that were seen. -/
def readItems (fuel depth : Nat) (seen : List Json) (cs : List Char) :
    Except Stop (Json × List Char) :=
  match fuel with
  | 0 => stopAt .expectedValue cs
  | fuel + 1 =>
    let item (cs : List Char) : Except Stop (Json × List Char) := do
      let (value, rest) ← readValue fuel depth cs
      readItems fuel depth (value :: seen) rest
    let cs := skipSpace cs
    match cs with
    | [] => stopBefore .endInList []
    | ']' :: rest => .ok (.array seen.reverse, rest)
    | c :: rest =>
      if seen.isEmpty then item cs
      else if c = ',' then
        let rest := skipSpace rest
        match rest with
        | [] => stopBefore .endInValue []
        | ']' :: _ => stopAt .trailingComma rest
        | _ => item rest
      else stopAt .expectedListCommaOrEnd cs

/-- The members of an object from the next one on, behind those that were seen. -/
def readMembers (fuel depth : Nat) (seen : List (String × Json)) (cs : List Char) :
    Except Stop (Json × List Char) :=
  match fuel with
  | 0 => stopAt .expectedValue cs
  | fuel + 1 =>
    let member (cs : List Char) : Except Stop (Json × List Char) := do
      match cs with
      | '"' :: rest =>
        let (key, rest) ← readString (rest.length + 1) [] rest
        let rest := skipSpace rest
        match rest with
        | ':' :: rest =>
          let (value, rest) ← readValue fuel depth rest
          readMembers fuel depth ((key, value) :: seen) rest
        | [] => stopBefore .endInObject []
        | _ => stopAt .expectedColon rest
      | _ => stopAt .keyMustBeString cs
    let cs := skipSpace cs
    match cs with
    | [] => stopBefore .endInObject []
    | '}' :: rest => .ok (.ofMembers seen.reverse, rest)
    | c :: rest =>
      if seen.isEmpty then member cs
      else if c = ',' then
        let rest := skipSpace rest
        match rest with
        | [] => stopBefore .endInValue []
        | '}' :: _ => stopAt .trailingComma rest
        | _ => member rest
      else stopAt .expectedObjectCommaOrEnd cs

end

/-- The line and the column behind some text, from those before it. -/
def advance : List Char → Nat × Nat → Nat × Nat
  | [], place => place
  | '\n' :: cs, (line, _) => advance cs (line + 1, 0)
  | c :: cs, (line, column) => advance cs (line, column + c.utf8Size)

/-- The line and the column behind the next `ahead` bytes of a text, of which a character may be
cut. -/
def advanceBytes : Nat → List Char → Nat × Nat → Nat × Nat
  | 0, _, place => place
  | _, [], place => place
  | ahead, '\n' :: cs, (line, _) => advanceBytes (ahead - 1) cs (line + 1, 0)
  | ahead, c :: cs, (line, column) =>
    advanceBytes (ahead - c.utf8Size) cs (line, column + min ahead c.utf8Size)

/-- Reads a text that holds one value, with blanks around it. Anything else behind the value is a
fault. -/
def parse (text : List Char) : Except JsonError Json :=
  let outcome := do
    let (value, rest) ← readValue (2 * text.length + 2) maxDepth text
    match skipSpace rest with
    | [] => .ok value
    | rest => stopAt .trailingCharacters rest
  match outcome with
  | .ok value => .ok value
  | .error stop =>
    let consumed := text.take (text.length - stop.rest.length)
    let (line, column) := advanceBytes stop.ahead stop.rest (advance consumed (1, 0))
    .error ⟨stop.fault, line, column⟩

end Json

end LayoutSpec
