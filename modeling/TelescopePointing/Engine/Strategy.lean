import TelescopePointing.Earth.Aberration
import TelescopePointing.Error
import TelescopePointing.Refraction
import TelescopePointing.Sky.Position
import TelescopePointing.Time.Sidereal

namespace TelescopePointing

variable {α : Type} [Scalar α]

/-- How the corrections of a catalog position are computed: by rotations of vectors with nutation
and humid air, or by the almanac recipes without either. -/
inductive Strategy where
  | rigorous
  | legacy
  deriving DecidableEq

namespace Strategy

def name : Strategy → String
  | rigorous => "rigorous"
  | legacy => "legacy"

/-- The two letters that stand for the strategy in names of tables. -/
def tag : Strategy → String
  | rigorous => "RG"
  | legacy => "LG"

def names : Strategy → List String
  | rigorous => ["rigorous", "rg", "astropy"]
  | legacy => ["legacy", "lg", "libnova"]

def ofName? (text : String) : Option Strategy :=
  [rigorous, legacy].find? fun s => s.names.contains text

/-- Names are read without regard to the case of their letters. -/
def parse (text : String) : Except PointingError Strategy :=
  let lower := String.ofList (text.toList.map Char.toLower)
  match ofName? lower with
  | some s => .ok s
  | none => .error (.unknownStrategy lower)

def defaultConvention : Strategy → AzimuthConvention
  | rigorous => .northEast
  | legacy => .southWest

/-- The place of a catalog star in the equator and equinox of date. -/
def apparentPlace (s : Strategy) (star : SkyPosition α) (time : ResolvedTime α) : SkyPosition α :=
  let days := time.terrestrialDays
  match s with
  | rigorous =>
    let seen := Aberration.displace star.direction (Earth.velocity days)
    let toDate := (Earth.nutationRotation days).compose (Earth.precession days)
    .ofDirection (toDate.apply seen) .apparent time.instant
  | legacy =>
    let shift := Aberration.corrections star.longitude star.latitude days
    let seen := SkyPosition.make (star.longitude + shift.1) (star.latitude + shift.2) star.frame
      star.instant
    .ofDirection ((Earth.precession days).apply seen.direction) .apparent time.instant

def siderealTime (s : Strategy) (time : ResolvedTime α) : α :=
  match s with
  | rigorous =>
    Sidereal.sinceMidnight time.universalDays + Earth.equinoxEquation time.terrestrialDays
  | legacy => Sidereal.continuous time.julianDay

/-- How far the air raises a star. -/
def refraction (s : Strategy) (altitude : α) (air : Atmosphere α) : α :=
  match s with
  | rigorous => Refraction.tangentModel altitude air
  | legacy => Refraction.cotangentModel altitude air.pressure air.temperature

end Strategy

end TelescopePointing
