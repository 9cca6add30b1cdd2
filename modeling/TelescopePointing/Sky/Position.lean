import TelescopePointing.Angle
import TelescopePointing.Sky.Direction
import TelescopePointing.Time.Instant

namespace TelescopePointing

variable {α : Type} [Scalar α]

/-- Where azimuth starts and which way it grows. -/
inductive AzimuthConvention where
  | northEast
  | southWest
  deriving DecidableEq

namespace AzimuthConvention

/-- An azimuth counted from north through east, in this convention. -/
def ofNorthEast (c : AzimuthConvention) (azimuth : α) : α :=
  match c with
  | northEast => Angle.positive azimuth
  | southWest => Angle.positive (azimuth - Angle.halfTurn)

/-- An azimuth of this convention, counted from north through east. -/
def toNorthEast (c : AzimuthConvention) (azimuth : α) : α :=
  match c with
  | northEast => Angle.positive azimuth
  | southWest => Angle.positive (azimuth + Angle.halfTurn)

end AzimuthConvention

inductive Frame where
  /-- Right ascension and declination of the equator and equinox of J2000. -/
  | catalog
  /-- Right ascension and declination of date, with aberration. -/
  | apparent
  /-- Azimuth and altitude. -/
  | horizon (convention : AzimuthConvention)
  /-- Local hour angle and declination. -/
  | hourAngle
  deriving DecidableEq

namespace Frame

def label : Frame → String
  | catalog => "catalog"
  | apparent => "apparent"
  | horizon .northEast => "horizon(N=0,E=90)"
  | horizon .southWest => "horizon(S=0,W=90)"
  | hourAngle => "hadec"

/-- Hour angles run from minus half a turn, every other longitude from zero. -/
def hasSignedLongitude : Frame → Bool
  | hourAngle => true
  | _ => false

def normalize (f : Frame) (longitude : α) : α :=
  if f.hasSignedLongitude then Angle.signed longitude else Angle.positive longitude

end Frame

/-- A pair of angles in a frame at a moment. -/
structure SkyPosition (α : Type) where
  longitude : α
  latitude : α
  frame : Frame
  instant : Instant

namespace SkyPosition

def make (longitude latitude : α) (frame : Frame) (instant : Instant) : SkyPosition α :=
  ⟨frame.normalize longitude, Angle.latitude latitude, frame, instant⟩

def catalog (rightAscension declination : α) (instant : Instant) : SkyPosition α :=
  make rightAscension declination .catalog instant

def direction (p : SkyPosition α) : Direction α := .ofAngles p.longitude p.latitude

/-- The position that a vector of any length points at. -/
def ofDirection (v : Direction α) (frame : Frame) (instant : Instant) : SkyPosition α :=
  make v.longitude v.latitude frame instant

/-- The great-circle angle between two positions, whatever their frames. -/
def separation (p q : SkyPosition α) : α := p.direction.angle q.direction

end SkyPosition

end TelescopePointing
