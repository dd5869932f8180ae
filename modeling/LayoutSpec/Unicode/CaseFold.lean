import LayoutSpec.Unicode.FoldTable

/-!
Characters that differ in case alone.
-/

namespace LayoutSpec.Unicode

/-- The code point that stands for a character and all those that differ from it in case alone. -/
def folded (c : Char) : Int :=
  match folds.find? fun (run, _) => run.contains c.toNat with
  | some (_, distance) => c.toNat + distance
  | none => c.toNat

/-- The code points of a character and of those that differ from it in case alone. -/
def caseVariants (c : Char) : List Nat :=
  let target := folded c
  target.toNat :: folds.filterMap fun (run, distance) =>
    let source := target - distance
    if 0 ≤ source && run.contains source.toNat then some source.toNat else none

end LayoutSpec.Unicode
