import TelescopePointing.Scalar

namespace TelescopePointing

variable {α : Type} [Scalar α]

structure Direction (α : Type) where
  x : α
  y : α
  z : α

namespace Direction

def add (v w : Direction α) : Direction α := ⟨v.x + w.x, v.y + w.y, v.z + w.z⟩

def shrink (v : Direction α) (k : α) : Direction α := ⟨v.x / k, v.y / k, v.z / k⟩

def dot (v w : Direction α) : α := v.x * w.x + v.y * w.y + v.z * w.z

def cross (v w : Direction α) : Direction α :=
  ⟨v.y * w.z - v.z * w.y, v.z * w.x - v.x * w.z, v.x * w.y - v.y * w.x⟩

def length (v : Direction α) : α := Scalar.sqrt (v.dot v)

def normalize (v : Direction α) : Direction α := v.shrink v.length

/-- The vector of length one at a longitude and a latitude. -/
def ofAngles (longitude latitude : α) : Direction α :=
  ⟨Scalar.cos latitude * Scalar.cos longitude, Scalar.cos latitude * Scalar.sin longitude,
    Scalar.sin latitude⟩

def longitude (v : Direction α) : α := Scalar.atan2 v.y v.x

def latitude (v : Direction α) : α := Scalar.atan2 v.z (Scalar.hypot v.x v.y)

/-- The angle between two vectors, which stays exact near zero and near the half turn. -/
def angle (v w : Direction α) : α := Scalar.atan2 (v.cross w).length (v.dot w)

end Direction

/-- A linear map of space, given by its rows. -/
structure Rotation (α : Type) where
  row1 : Direction α
  row2 : Direction α
  row3 : Direction α

namespace Rotation

def apply (m : Rotation α) (v : Direction α) : Direction α :=
  ⟨m.row1.dot v, m.row2.dot v, m.row3.dot v⟩

def transpose (m : Rotation α) : Rotation α :=
  ⟨⟨m.row1.x, m.row2.x, m.row3.x⟩, ⟨m.row1.y, m.row2.y, m.row3.y⟩,
    ⟨m.row1.z, m.row2.z, m.row3.z⟩⟩

/-- The map that applies the second factor first. -/
def compose (m n : Rotation α) : Rotation α :=
  let t := n.transpose
  ⟨t.apply m.row1, t.apply m.row2, t.apply m.row3⟩

/-- The rotation of space by an angle about an axis of length one. -/
def about (u : Direction α) (angle : α) : Rotation α :=
  let s := Scalar.sin angle
  let c := Scalar.cos angle
  let t := 1.0 - c
  ⟨⟨u.x * u.x + (1.0 - u.x * u.x) * c, u.x * u.y * t - u.z * s, u.x * u.z * t + u.y * s⟩,
    ⟨u.x * u.y * t + u.z * s, u.y * u.y + (1.0 - u.y * u.y) * c, u.y * u.z * t - u.x * s⟩,
    ⟨u.x * u.z * t - u.y * s, u.y * u.z * t + u.x * s, u.z * u.z + (1.0 - u.z * u.z) * c⟩⟩

/-- The components of a fixed vector after the frame has turned about its first axis. -/
def frameX (angle : α) : Rotation α := about ⟨1.0, 0.0, 0.0⟩ (-angle)

/-- The components of a fixed vector after the frame has turned about its second axis. -/
def frameY (angle : α) : Rotation α := about ⟨0.0, 1.0, 0.0⟩ (-angle)

/-- The components of a fixed vector after the frame has turned about its third axis. -/
def frameZ (angle : α) : Rotation α := about ⟨0.0, 0.0, 1.0⟩ (-angle)

end Rotation

end TelescopePointing
