import TelescopePointing.Scalar

namespace TelescopePointing.Angle

variable {α : Type} [Scalar α]

def halfTurn : α := Scalar.pi

def fullTurn : α := 2.0 * Scalar.pi

def quarterTurn : α := Scalar.pi / 2.0

def degree : α := Scalar.pi / 180.0

def arcsecond : α := Scalar.pi / 648000.0

def ofDegrees (x : α) : α := x * degree

def toDegrees (x : α) : α := x * (180.0 / Scalar.pi)

/-- The representative of an angle in `[0, 2π)`. The remainder of a tiny negative angle can round
up to the full turn, which stands for zero. -/
def positive (angle : α) : α :=
  let a := Scalar.modulo angle fullTurn
  if fullTurn ≤ a then 0.0 else a

/-- The representative of an angle in `[-π, π)`. -/
def signed (angle : α) : α := positive (angle + halfTurn) - halfTurn

/-- The nearest latitude in `[-π/2, π/2]`. -/
def latitude (angle : α) : α := Scalar.clamp (-quarterTurn) quarterTurn angle

end TelescopePointing.Angle
