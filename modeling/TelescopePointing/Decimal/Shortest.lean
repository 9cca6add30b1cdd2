import TelescopePointing.Scalar.Binary64
import TelescopePointing.Decimal.Rounding

namespace TelescopePointing.Decimal

open Binary64 (Magnitude)

/-- The number `digits · 10 ^ exponent`. -/
structure Scaled where
  digits : Nat
  exponent : Int

/-- Trailing zeros of the digits move into the exponent. -/
def Scaled.strip (s : Scaled) : Scaled :=
  if h : s.digits ≠ 0 ∧ s.digits % 10 = 0 then
    Scaled.strip ⟨s.digits / 10, s.exponent + 1⟩
  else s
termination_by s.digits
decreasing_by omega

/-- The ratios that are read back as one and the same number, over a common denominator.
The ends belong to the interval when the mantissa is even. -/
structure ReadingInterval where
  low : Nat
  value : Nat
  high : Nat
  denominator : Nat
  closed : Bool

/-- The interval reaches half way to either neighbour. Below a power of two the neighbours are
twice as dense. -/
def ReadingInterval.ofMagnitude (m : Magnitude) : ReadingInterval :=
  let scale := Nat.pow 2 m.exponent.toNat
  let below := if m.mantissa = Nat.pow 2 52 ∧ -1074 < m.exponent then 1 else 2
  ⟨(4 * m.mantissa - below) * scale, 4 * m.mantissa * scale, (4 * m.mantissa + 2) * scale,
    4 * Nat.pow 2 (-m.exponent).toNat, m.mantissa % 2 = 0⟩

/-- Whether a multiple of a unit lies in the interval; the unit is `up / down`. -/
def ReadingInterval.holds (i : ReadingInterval) (up down d : Nat) : Bool :=
  let x := d * up * i.denominator
  if i.closed then i.low * down ≤ x && x ≤ i.high * down
  else i.low * down < x && x < i.high * down

/-- The point of the decimal grid with `n` digits that reads back, if there is one. Of two such
neighbours the nearer is taken, of two equally near the even one. -/
def ReadingInterval.onGrid? (i : ReadingInterval) (lead : Int) (n : Nat) : Option Scaled :=
  let place := lead - n + 1
  let up := Nat.pow 10 place.toNat
  let down := Nat.pow 10 (-place).toNat
  let d := i.value * down / (up * i.denominator)
  let twice := (2 * d + 1) * up * i.denominator
  let upper := twice < 2 * i.value * down || (twice == 2 * i.value * down && d % 2 == 1)
  match i.holds up down d, i.holds up down (d + 1) with
  | true, true => some ⟨if upper then d + 1 else d, place⟩
  | true, false => some ⟨d, place⟩
  | false, true => some ⟨d + 1, place⟩
  | false, false => none

/-- The fewest digits that read back as a positive magnitude. Seventeen always suffice. -/
def shortest (m : Magnitude) : Scaled :=
  let i := ReadingInterval.ofMagnitude m
  let lead := leadingExponent i.value i.denominator
  (((List.range 17).findSome? fun n => i.onGrid? lead (n + 1)).getD ⟨0, 0⟩).strip

end TelescopePointing.Decimal
