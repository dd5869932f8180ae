/-!
Numerals to other bases than ten, and characters by their numbers.
-/

namespace LayoutSpec.Text

/-- The value of a digit to a base of at most 16. Letters of either case follow the decimal digits.
-/
def digit? (base : Nat) (c : Char) : Option Nat :=
  let value? :=
    if c.isDigit then some (c.toNat - 48)
    else if 'a' ≤ c && c ≤ 'f' then some (c.toNat - 87)
    else if 'A' ≤ c && c ≤ 'F' then some (c.toNat - 55)
    else none
  value?.filter (· < base)

/-- The number of a run of digits, none if another character is in it. -/
def digits? (base : Nat) (cs : List Char) : Option Nat :=
  cs.foldlM (fun n c => (digit? base c).map (base * n + ·)) 0

/-- A non-empty run of digits, read as a number. -/
def numeral? (base : Nat) (cs : List Char) : Option Nat :=
  if cs.isEmpty then none else digits? base cs

/-- The character with that number, unless it is a surrogate or too large. -/
def char? (n : Nat) : Option Char :=
  if h : n.isValidChar then some (Char.ofNatAux n h) else none

end LayoutSpec.Text
