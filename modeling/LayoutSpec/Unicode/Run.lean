/-!
Sets of code points as they stand in tables.
-/

namespace LayoutSpec.Unicode

/-- Every `step`-th code point from the first one to the last one. -/
structure Run where
  first : Nat
  last : Nat
  step : Nat
deriving DecidableEq, Repr

def Run.contains (r : Run) (n : Nat) : Bool :=
  r.first ≤ n && n ≤ r.last && (n - r.first) % r.step = 0

/-- Whether a character is in one of some runs. -/
def isIn (runs : List Run) (c : Char) : Bool :=
  runs.any (·.contains c.toNat)

end LayoutSpec.Unicode
