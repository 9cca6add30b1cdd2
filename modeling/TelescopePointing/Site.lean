import TelescopePointing.Angle
import TelescopePointing.Error

namespace TelescopePointing

variable {α : Type} [Scalar α] [NumberText α]

/-- The place of the telescope: degrees east, degrees north, meters above the sea. -/
structure Site (α : Type) where
  longitude : α
  latitude : α
  height : α

namespace Site

def undefinedCoordinate? (s : Site α) : Option (String × α) :=
  [("longitude", s.longitude), ("latitude", s.latitude), ("height", s.height)].find?
    fun c => !Scalar.isFinite c.2

/-- Finite coordinates are asked for before the range of the latitude. -/
def check (s : Site α) : Except PointingError Unit :=
  match s.undefinedCoordinate? with
  | some (name, value) => .error (.invalidSite s!"{name} = {NumberText.plain value}")
  | none =>
    if -90.0 ≤ s.latitude && s.latitude ≤ 90.0 then .ok ()
    else .error (.invalidSite s!"latitude {NumberText.plain s.latitude} outside [-90, 90]")

def make (longitude latitude height : α) : Except PointingError (Site α) :=
  let s : Site α := ⟨longitude, latitude, height⟩
  s.check.map fun _ => s

def longitudeAngle (s : Site α) : α := Angle.ofDegrees s.longitude

def latitudeAngle (s : Site α) : α := Angle.ofDegrees s.latitude

end Site

end TelescopePointing
