import LayoutSpec.Text.Blank
import LayoutSpec.Text.Decimal

/-!
The parameter line above a group, such as `[1-3, a, b]`. The group below is written once and stands
for one group per value.
-/

namespace LayoutSpec.Parameters

open Text

def maxBound : Nat := 9223372036854775807

/-- The numerals from the lesser bound to the greater one. A range may be written from either of
them, and leading zeros are lost. -/
def numerals (a b : Nat) : List (List Char) :=
  (List.range' (min a b) (max a b - min a b + 1)).map natNumeral

/-- The values of one item: a range if it is two numbers around its first dash, itself otherwise.
Items are not empty and have no brackets. -/
def itemValues? (item : List Char) : Option (List (List Char)) :=
  if item.isEmpty || item.contains '[' || item.contains ']' then none
  else
    match cutAt (· = '-') item with
    | none => some [item]
    | some (low, high) =>
      match nat? low, nat? high with
      | some a, some b => if a ≤ maxBound && b ≤ maxBound then some (numerals a b) else none
      | _, _ => some [item]

def inner? (line : List Char) : Option (List Char) :=
  match line.filter (!isBlank ·) with
  | '[' :: rest => if rest.getLast? = some ']' then some rest.dropLast else none
  | _ => none

/-- The values of a parameter line in their order, if it is well formed. Blanks do not count, not
even those within an item, and values may be repeated. -/
def parse? (line : List Char) : Option (List String) := do
  let values ← ((← inner? line).splitOn ',').mapM itemValues?
  return values.flatten.map String.ofList

end LayoutSpec.Parameters
