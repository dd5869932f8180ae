/-!
Decimal numerals of whole numbers: writing them, and reading them back within a bound.
-/

namespace LayoutSpec.Text

/-- The decimal digits of a number, without leading zeros. -/
def natNumeral (n : Nat) : List Char :=
  Nat.toDigits 10 n

/-- The decimal numeral of an integer: a negative one has a minus sign. -/
def intNumeral : Int → List Char
  | .ofNat n => natNumeral n
  | .negSucc n => '-' :: natNumeral (n + 1)

/-- The number that a run of decimal digits stands for; leading zeros are allowed. -/
def natOfDigits (ds : List Char) : Nat :=
  Nat.ofDigitChars 10 ds 0

theorem natOfDigits_natNumeral (n : Nat) : natOfDigits (natNumeral n) = n :=
  Nat.ofDigitChars_ten_toDigits

/-- A non-empty run of decimal digits, read as a number. -/
def nat? (cs : List Char) : Option Nat :=
  if !cs.isEmpty && cs.all Char.isDigit then some (natOfDigits cs) else none

def minPixel : Int := -2147483648

def maxPixel : Int := 2147483647

/-- Pixel numbers are 32 bits wide, with a sign. -/
def isPixel (n : Int) : Bool :=
  minPixel ≤ n && n ≤ maxPixel

/-- The number, if it is a pixel number. -/
def pixel? (n : Int) : Option Int :=
  if isPixel n then some n else none

end LayoutSpec.Text
