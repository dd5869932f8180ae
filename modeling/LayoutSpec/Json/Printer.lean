import LayoutSpec.Decimal.Shortest
import LayoutSpec.Json.Basic
import LayoutSpec.Text.Decimal

/-!
The compact text of a JSON value, without blanks.
-/

namespace LayoutSpec.Json

open Text

/-- One character of a string. Quotes, backslashes and control characters are escaped, all others
stand for themselves. -/
def charText (c : Char) : List Char :=
  match c with
  | '"' => ['\\', '"']
  | '\\' => ['\\', '\\']
  | '\n' => ['\\', 'n']
  | '\r' => ['\\', 'r']
  | '\t' => ['\\', 't']
  | '\x08' => ['\\', 'b']
  | '\x0c' => ['\\', 'f']
  | c =>
    if c.toNat < 0x20 then
      ['\\', 'u', '0', '0', Nat.digitChar (c.toNat / 16), Nat.digitChar (c.toNat % 16)]
    else [c]

def stringText (s : String) : List Char :=
  '"' :: s.toList.flatMap charText ++ ['"']

/-- How a float is written: with a point between its digits if its leading digit stands at `10^-5`
up to `10^15`, and with an exponent that shows its sign otherwise. -/
structure FloatFormat where
  leastPlain : Int
  greatestPlain : Int

def floatFormat : FloatFormat := ⟨-5, 15⟩

def decimalText (format : FloatFormat) (d : Decimal.Shortest) : List Char :=
  let digits := natNumeral d.digits
  let leading : Int := d.exponent + digits.length - 1
  if format.leastPlain ≤ leading && leading ≤ format.greatestPlain then
    if 0 ≤ d.exponent then
      digits ++ List.replicate d.exponent.toNat '0' ++ ['.', '0']
    else if 0 ≤ leading then
      let whole := leading.toNat + 1
      digits.take whole ++ '.' :: digits.drop whole
    else
      '0' :: '.' :: List.replicate (-leading - 1).toNat '0' ++ digits
  else
    let exponent := (if leading < 0 then '-' else '+') :: natNumeral leading.natAbs
    match digits with
    | [digit] => digit :: 'e' :: exponent
    | first :: rest => first :: '.' :: rest ++ 'e' :: exponent
    | [] => []

/-- The text of a finite float: the fewest digits that read back. -/
def floatText (x : Float) : List Char :=
  let sign := if x.toBits >>> 63 = 0 then [] else ['-']
  if x == 0 then sign ++ ['0', '.', '0']
  else sign ++ decimalText floatFormat (Decimal.shortest x.abs)

def numberText : JsonNumber → List Char
  | .whole value => intNumeral value
  | .float value => floatText value

mutual

def text : Json → List Char
  | .null => "null".toList
  | .bool true => "true".toList
  | .bool false => "false".toList
  | .number value => numberText value
  | .string value => stringText value
  | .array [] => ['[', ']']
  | .array (first :: rest) => '[' :: text first ++ itemsText rest ++ [']']
  | .object [] => ['{', '}']
  | .object ((key, value) :: rest) =>
    '{' :: stringText key ++ ':' :: text value ++ membersText rest ++ ['}']

/-- Items behind the first one. -/
def itemsText : List Json → List Char
  | [] => []
  | item :: rest => ',' :: text item ++ itemsText rest

/-- Members behind the first one. -/
def membersText : List (String × Json) → List Char
  | [] => []
  | (key, value) :: rest => ',' :: stringText key ++ ':' :: text value ++ membersText rest

end

def compact (value : Json) : String :=
  String.ofList value.text

end LayoutSpec.Json
