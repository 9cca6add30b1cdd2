namespace TelescopePointing

/-- The numbers that positions, dates and fits are computed with. Every formula of the library is
written once over this class, so the same definition runs on binary floating point and reads as
exact arithmetic over the reals. -/
class Scalar (α : Type) extends Add α, Sub α, Mul α, Div α, Neg α, OfScientific α,
    LT α, LE α, BEq α where
  decideLT : DecidableLT α
  decideLE : DecidableLE α
  ofInt : Int → α
  pi : α
  sin : α → α
  cos : α → α
  tan : α → α
  asin : α → α
  /-- The angle of the point whose ordinate is the first and abscissa the second argument. -/
  atan2 : α → α → α
  exp : α → α
  sqrt : α → α
  pow : α → α → α
  abs : α → α
  floor : α → α
  /-- The remainder of the first argument by the second that is never negative. -/
  modulo : α → α → α
  /-- The whole part of a number, zero for a number below one or undefined. -/
  toNat : α → Nat
  isFinite : α → Bool

instance (priority := low) Scalar.instDecidableLT {α : Type} [Scalar α] : DecidableLT α :=
  Scalar.decideLT

instance (priority := low) Scalar.instDecidableLE {α : Type} [Scalar α] : DecidableLE α :=
  Scalar.decideLE

/-- How a number is written in a message or a table, and read back from a table cell. -/
class NumberText (α : Type) where
  /-- The fewest digits that read back, never with an exponent. -/
  plain : α → String
  /-- A given count of digits after the point. -/
  fixed : Nat → α → String
  /-- The fewest digits that read back, in the form kept in table cells. -/
  cell : α → String
  ofCell? : String → Option α

namespace Scalar

variable {α : Type} [Scalar α]

def ofNat (n : Nat) : α := ofInt n

/-- The larger number; an undefined one loses against any other. -/
def max (x y : α) : α := if x < y || !(x == x) then y else x

/-- The nearest number of an interval; an undefined number stays as it is. -/
def clamp (lo hi x : α) : α := if x < lo then lo else if hi < x then hi else x

/-- The whole part toward zero. -/
def trunc (x : α) : α := if x < 0.0 then -floor (-x) else floor x

def fract (x : α) : α := x - trunc x

def square (x : α) : α := x * x

/-- The length of the hypotenuse, scaled by the longer leg so that no square overflows. It is
infinite when a leg is, and else undefined when a leg is. -/
def hypot (x y : α) : α :=
  let longer := max (abs x) (abs y)
  if !isFinite longer then longer
  else if !isFinite x || !isFinite y then x + y
  else if longer == 0.0 then longer
  else longer * sqrt (square (x / longer) + square (y / longer))

def sum (xs : List α) : α := xs.foldl (· + ·) 0.0

end Scalar

end TelescopePointing
