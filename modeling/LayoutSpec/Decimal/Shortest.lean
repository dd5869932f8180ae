/-!
The shortest decimal of a binary floating-point number. A finite number is `m · 2^q`; the reals that
round to it form an interval, and the decimal sought is the one with the fewest digits inside it, of
those the nearest to the number. All comparisons are made between whole numbers.
-/

namespace LayoutSpec.Decimal

/-- A positive decimal `digits · 10^exponent`. -/
structure Shortest where
  digits : Nat
  exponent : Int
deriving DecidableEq, Repr

/-- A positive binary number `mantissa · 2^exponent`, where `lowest` says that the number below it
is only half as far away as the one above it. -/
structure Binary where
  mantissa : Nat
  exponent : Int
  lowest : Bool
deriving DecidableEq, Repr

namespace Binary

/-- Whether the decimal `digits · 10^e` rounds to the number. The ends of the interval count if the
mantissa is even. -/
def covers (b : Binary) (digits : Nat) (e : Int) : Bool :=
  let lower := 4 * b.mantissa - (if b.lowest then 1 else 2)
  let upper := 4 * b.mantissa + 2
  let scale2 := Nat.pow 2 b.exponent.toNat
  let unscale2 := Nat.pow 2 (-b.exponent).toNat
  let scale10 := Nat.pow 10 e.toNat
  let unscale10 := Nat.pow 10 (-e).toNat
  let value := 4 * digits * scale10 * unscale2
  let low := lower * scale2 * unscale10
  let high := upper * scale2 * unscale10
  if b.mantissa % 2 = 0 then low ≤ value && value ≤ high else low < value && value < high

/-- The whole multiple of `10^e` below the number, and twice the distance from it compared with the
step: the next multiple is nearer if the second exceeds the third. -/
def below (b : Binary) (e : Int) : Nat × Nat × Nat :=
  let num := b.mantissa * Nat.pow 2 b.exponent.toNat * Nat.pow 10 (-e).toNat
  let den := Nat.pow 2 (-b.exponent).toNat * Nat.pow 10 e.toNat
  (num / den, 2 * (num % den), den)

/-- The decimal on the grid of `10^e` that rounds to the number and is nearest to it, if the grid
has one. Of two at the same distance the even one is taken. -/
def onGrid? (b : Binary) (e : Int) : Option Shortest :=
  let (low, twice, step) := b.below e
  let high := low + 1
  match b.covers low e && 0 < low, b.covers high e with
  | false, false => none
  | true, false => some ⟨low, e⟩
  | false, true => some ⟨high, e⟩
  | true, true =>
    if twice < step || (twice = step && low % 2 = 0) then some ⟨low, e⟩ else some ⟨high, e⟩

/-- The first grid that has a decimal for the number, from the coarsest on. -/
def search (b : Binary) (e : Int) : Nat → Shortest
  | 0 => ⟨(b.below e).1, e⟩
  | steps + 1 =>
    match b.onGrid? e with
    | some decimal => decimal
    | none => search b (e - 1) steps

end Binary

/-- The binary number behind the bits of a finite float that is not zero, without its sign. -/
def ofBits (bits : UInt64) : Binary :=
  let fraction := (bits &&& 0xFFFFFFFFFFFFF).toNat
  let exponent := ((bits >>> 52) &&& 0x7FF).toNat
  if exponent = 0 then ⟨fraction, -1074, false⟩
  else ⟨fraction + 0x10000000000000, exponent - 1075, fraction = 0 && 1 < exponent⟩

/-- The shortest decimal of a positive finite float. A power of ten above the number starts the
search: no coarser grid can have a decimal for it. -/
def shortest (x : Float) : Shortest :=
  let b := ofBits x.toBits
  let bits := (Nat.log2 b.mantissa : Int) + b.exponent
  let top := (bits * 30103).fdiv 100000 + 2
  b.search top 20

end LayoutSpec.Decimal
