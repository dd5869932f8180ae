import LayoutSpec.Unicode.CaseFold
import LayoutSpec.Unicode.Run

/-!
Sets of characters, built from tables and ranges.
-/

namespace LayoutSpec

open Unicode

inductive CharSet where
  | runs (runs : List Run)
  | union (a b : CharSet)
  | inter (a b : CharSet)
  | diff (a b : CharSet)
  | symmDiff (a b : CharSet)
  | complement (a : CharSet)
  /-- The characters of a set and those that differ from them in case alone. -/
  | anyCase (a : CharSet)
  /-- The same for ASCII letters alone. -/
  | anyAsciiCase (a : CharSet)
deriving DecidableEq, Repr

namespace CharSet

def empty : CharSet := .runs []

def range (first last : Char) : CharSet :=
  .runs [⟨first.toNat, last.toNat, 1⟩]

def single (c : Char) : CharSet := range c c

def unionAll (sets : List CharSet) : CharSet :=
  match sets with
  | [] => empty
  | [a] => a
  | a :: rest => .union a (unionAll rest)

/-- The code point of the same ASCII letter in the other case. Other code points stay. -/
def swapAsciiCase (n : Nat) : Nat :=
  if 0x41 ≤ n && n ≤ 0x5A then n + 0x20
  else if 0x61 ≤ n && n ≤ 0x7A then n - 0x20
  else n

def containsCode (n : Nat) : CharSet → Bool
  | runs rs => rs.any (·.contains n)
  | union a b => a.containsCode n || b.containsCode n
  | inter a b => a.containsCode n && b.containsCode n
  | diff a b => a.containsCode n && !b.containsCode n
  | symmDiff a b => a.containsCode n != b.containsCode n
  | complement a => !a.containsCode n
  | anyCase a =>
    a.containsCode n || (caseVariants (Char.ofNat n)).any fun variant => a.containsCode variant
  | anyAsciiCase a => a.containsCode n || a.containsCode (swapAsciiCase n)

def contains (s : CharSet) (c : Char) : Bool :=
  s.containsCode c.toNat

theorem contains_union (a b : CharSet) (c : Char) :
    (union a b).contains c = (a.contains c || b.contains c) :=
  rfl

theorem contains_range {first last c : Char} :
    (range first last).contains c = true ↔ first ≤ c ∧ c ≤ last := by
  simp only [contains, range, containsCode, Run.contains, List.any_cons, List.any_nil,
    Bool.or_false, Nat.mod_one, decide_true, Bool.and_true, Bool.and_eq_true, decide_eq_true_eq]
  rfl

theorem contains_single {c d : Char} : (single d).contains c = true ↔ c = d := by
  rw [single, contains_range]
  constructor
  · rintro ⟨hfirst, hlast⟩
    exact Char.le_antisymm hlast hfirst
  · rintro rfl
    exact ⟨Char.le_refl c, Char.le_refl c⟩

end CharSet

end LayoutSpec
