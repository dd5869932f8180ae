import LayoutSpec.Text.Blank

/-!
The kinds of lines of a spec. The kind of a line is found without knowing the lines around it; only
between two object markers all other lines are definitions.
-/

namespace LayoutSpec

open Text

/-- A line that belongs to the shape of a conditional block. -/
inductive BlockKeyword where
  /-- `if`, `unless`, `or if` and `or unless`. -/
  | statement (chained inverted : Bool)
  | body
  | otherwise
  | close
deriving DecidableEq, Repr

namespace BlockKeyword

def ofWords? : List String → Option BlockKeyword
  | ["if"] => some (.statement false false)
  | ["unless"] => some (.statement false true)
  | ["or", "if"] => some (.statement true false)
  | ["or", "unless"] => some (.statement true true)
  | ["do"] => some .body
  | ["otherwise"] => some .otherwise
  | ["end"] => some .close
  | _ => none

/-- The keyword of a line that starts without a space or a tab. Any blanks may stand between its
words and behind them. -/
def ofLine? (line : List Char) : Option BlockKeyword :=
  if line.head? = some ' ' || line.head? = some '\t' then none
  else ofWords? ((words line).map String.ofList)

/-- Whether a line with nothing but this name is a keyword. Such a name could be declared, but no
line could open its group. -/
def isReserved (name : List Char) : Bool :=
  (ofLine? name).isSome

end BlockKeyword

/-- What a line of a spec is by itself. Texts are trimmed. -/
inductive LineKind where
  /-- Nothing, or a comment. -/
  | idle
  | directive (text : List Char)
  /-- The line around object definitions. -/
  | marker
  | tags (text : List Char)
  | separator
  | parameters
  | keyword (keyword : BlockKeyword)
  /-- An indented line. -/
  | constraint
  | name
deriving DecidableEq, Repr

namespace LineKind

/-- Two or more equality signs. -/
def isMarker (line : List Char) : Bool :=
  2 ≤ line.length && line.all (· = '=')

/-- Four or more dashes. -/
def isSeparator (line : List Char) : Bool :=
  4 ≤ line.length && line.all (· = '-')

/-- The kind of a line. The first rule that fits decides, and the indent matters to the last ones
only: a comment or an instruction may be indented, a group may not. -/
def of (raw : List Char) : LineKind :=
  let line := trim raw
  match line with
  | [] | '#' :: _ => .idle
  | '@' :: '@' :: text => .directive (trim text)
  | _ =>
    if isMarker line then .marker
    else
      match line with
      | '@' :: text => .tags text
      | '[' :: _ => .parameters
      | _ =>
        if isSeparator line then .separator
        else
          match BlockKeyword.ofLine? raw with
          | some found => .keyword found
          | none =>
            if raw.head? = some ' ' || raw.head? = some '\t' then .constraint else .name

end LineKind

end LayoutSpec
