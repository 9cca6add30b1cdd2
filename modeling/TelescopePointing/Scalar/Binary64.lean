import TelescopePointing.Scalar

namespace TelescopePointing.Binary64

/-- A finite number written as `mantissa · 2 ^ exponent`, apart from its sign. -/
structure Magnitude where
  mantissa : Nat
  exponent : Int

/-- The exact magnitude of a finite number, from the fields of its encoding. -/
def magnitude (x : Float) : Magnitude :=
  let bits := x.toBits.toNat
  let fraction : Nat := bits % Nat.pow 2 52
  let biased : Nat := bits / Nat.pow 2 52 % Nat.pow 2 11
  if biased = 0 then ⟨fraction, -1074⟩ else ⟨Nat.pow 2 52 + fraction, (biased : Int) - 1075⟩

def isNegative (x : Float) : Bool := Nat.pow 2 63 ≤ x.toBits.toNat

def Magnitude.numerator (m : Magnitude) : Nat := m.mantissa * Nat.pow 2 m.exponent.toNat

def Magnitude.denominator (m : Magnitude) : Nat := Nat.pow 2 (-m.exponent).toNat

/-- The whole part of a finite number, exactly. -/
def truncate (x : Float) : Int :=
  let n := (magnitude x).numerator / (magnitude x).denominator
  if isNegative x then -(n : Int) else n

/-- The remainder of two finite magnitudes is exact: both are brought to the smaller exponent,
where the division is one of whole numbers. -/
def magnitudeRemainder (x y : Magnitude) : Float :=
  let e := min x.exponent y.exponent
  let m := x.mantissa * Nat.pow 2 (x.exponent - e).toNat
  let n := y.mantissa * Nat.pow 2 (y.exponent - e).toNat
  (Float.ofNat (m % n)).scaleB e

/-- The exact remainder with the sign of the dividend. -/
def remainder (x y : Float) : Float :=
  if x.isNaN || y.isNaN || x.isInf || y == 0.0 then 0.0 / 0.0
  else if y.isInf then x
  else
    let r := magnitudeRemainder (magnitude x) (magnitude y)
    if isNegative x then -r else r

/-- A negative remainder is raised by one modulus. -/
def modulo (x y : Float) : Float :=
  let r := remainder x y
  if r < 0.0 then r + y.abs else r

instance : Scalar Float where
  decideLT := inferInstance
  decideLE := inferInstance
  ofInt := Float.ofInt
  pi := 3.141592653589793
  sin := Float.sin
  cos := Float.cos
  tan := Float.tan
  asin := Float.asin
  atan2 := Float.atan2
  exp := Float.exp
  sqrt := Float.sqrt
  pow := Float.pow
  abs := Float.abs
  floor := Float.floor
  modulo := modulo
  toNat x := x.toUInt64.toNat
  isFinite := Float.isFinite

end TelescopePointing.Binary64
