import LayoutSpec.Constraint.Basic
import LayoutSpec.Text.Quoted

/-!
The line of a spec that states a constraint.
-/

namespace LayoutSpec.Constraint

open Text

/-- Locations behind an object name: the first after a blank, the others after a comma. -/
def locationChars : List Location → List Char
  | [] => []
  | first :: rest => ' ' :: first.chars ++ rest.flatMap fun l => ", ".toList ++ l.chars

def partlyChars (partly : Bool) : List Char :=
  if partly then " partly".toList else []

def chars : Constraint → List Char
  | .absent => "absent".toList
  | .visible => "visible".toList
  | .width range => "width: ".toList ++ range.chars
  | .height range => "height: ".toList ++ range.chars
  | .inside object partly locations =>
    "inside".toList ++ partlyChars partly ++ ": ".toList ++ object.toList ++ locationChars locations
  | .near object locations => "near: ".toList ++ object.toList ++ locationChars locations
  | .relative direction object range =>
    direction.keyword.toList ++ ": ".toList ++ object.toList ++ ' ' :: range.chars
  | .aligned axis edge object tolerance =>
    "aligned ".toList ++ axis.keyword.toList ++ ' ' :: edge.keyword.toList ++ ": ".toList
      ++ object.toList ++ ' ' :: intNumeral tolerance ++ "px".toList
  | .centered axis relation object tolerance =>
    "centered ".toList ++ axis.keyword.toList ++ ' ' :: relation.keyword.toList ++ ": ".toList
      ++ object.toList ++ ' ' :: intNumeral tolerance ++ "px".toList
  | .contains partly objects =>
    "contains".toList ++ partlyChars partly ++ ": ".toList
      ++ ", ".toList.intercalate (objects.map String.toList)
  | .text operation expected =>
    "text ".toList ++ operation.keyword.toList ++ ": ".toList ++ quote expected.toList
  | .component spec => "component: ".toList ++ spec.text.toList

def line (c : Constraint) : String :=
  String.ofList c.chars

end LayoutSpec.Constraint
