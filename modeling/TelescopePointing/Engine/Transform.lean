import TelescopePointing.Engine.Horizon
import TelescopePointing.Engine.Strategy
import TelescopePointing.Log
import TelescopePointing.Site

namespace TelescopePointing

variable {α : Type} [Scalar α] [NumberText α]

/-- A strategy with the convention of the azimuths that it answers with. -/
structure Engine where
  strategy : Strategy
  convention : AzimuthConvention
  log : LogTarget

namespace Engine

/-- Without a convention the strategy's own is taken. -/
def make (strategy : Strategy) (convention : Option AzimuthConvention) (log : LogTarget) : Engine :=
  ⟨strategy, convention.getD strategy.defaultConvention, log.child "transform"⟩

def apparentPlace (e : Engine) (star : SkyPosition α) (instant : Instant) :
    Except PointingError (SkyPosition α) :=
  (ResolvedTime.resolve instant).map (e.strategy.apparentPlace star)

def localSiderealTime (e : Engine) (instant : Instant) (site : Site α) : Except PointingError α :=
  do
    site.check
    let time ← ResolvedTime.resolve instant
    return e.strategy.siderealTime time + site.longitudeAngle

/-- Where a star stands on the horizon, the altitude still without refraction. The azimuth is
counted from north through east; refraction is given when the position was corrected. -/
structure Standing (α : Type) where
  azimuth : α
  altitude : α
  refraction : Option α

/-- The place on the horizon of an equatorial position. With corrections the position is that of a
catalog star, which first gets its apparent place and at last its refraction. -/
def standing (e : Engine) (star : SkyPosition α) (instant : Instant) (site : Site α)
    (air : Atmosphere α) (correct : Bool) : Except PointingError (Standing α) := do
  site.check
  let time ← ResolvedTime.resolve instant
  let place := if correct then e.strategy.apparentPlace star time else star
  let meridian := e.strategy.siderealTime time + site.longitudeAngle
  let (azimuth, altitude) :=
    Horizon.ofHourAngle (meridian - place.longitude) place.latitude site.latitudeAngle
  return ⟨azimuth, altitude, if correct then some (e.strategy.refraction altitude air) else none⟩

def position (e : Engine) (s : Standing α) (instant : Instant) : SkyPosition α :=
  let altitude := match s.refraction with
    | some r => s.altitude + r
    | none => s.altitude
  .make (e.convention.ofNorthEast s.azimuth) altitude (.horizon e.convention) instant

/-- A corrected standing leaves a record of its refraction. -/
def records (e : Engine) (s : Standing α) : List LogRecord :=
  match s.refraction with
  | some r =>
    let altitude := NumberText.fixed 6 s.altitude
    let arcseconds := NumberText.fixed 2 (r / Angle.arcsecond)
    [e.log.record .trace
      s!"{e.strategy.name}: alt {altitude} rad, refraction {arcseconds}\""]
  | none => []

def toHorizon (e : Engine) (star : SkyPosition α) (instant : Instant) (site : Site α)
    (air : Atmosphere α) (correct : Bool) : Except PointingError (SkyPosition α) :=
  (e.standing star instant site air correct).map fun s => e.position s instant

/-- The hour angle and declination of a horizon position, whose frame tells the convention of its
azimuth. A position of another frame is taken to follow the engine's. No refraction is removed. -/
def toHourAngle (e : Engine) (horizon : SkyPosition α) (instant : Instant) (site : Site α) :
    Except PointingError (SkyPosition α) := do
  site.check
  let _time : ResolvedTime α ← ResolvedTime.resolve instant
  let convention := match horizon.frame with
    | .horizon c => c
    | _ => e.convention
  let (hourAngle, declination) :=
    Horizon.toHourAngle (convention.toNorthEast horizon.longitude) horizon.latitude
      site.latitudeAngle
  return .make hourAngle declination .hourAngle instant

/-- The largest separation that two strategies should show above ten degrees, in arcseconds. -/
def divergenceBound : α := 120.0

/-- How far apart two engines place a star, in arcseconds, with the records this leaves. A star
above ten degrees that they place too far apart is warned of. -/
def divergence (first second : Engine) (star : SkyPosition α) (instant : Instant) (site : Site α)
    (air : Atmosphere α) : Except PointingError (α × List LogRecord) := do
  let s ← first.standing star instant site air true
  let t ← second.standing star instant site air true
  let p := first.position s instant
  let q := second.position t instant
  let separation := p.separation q / Angle.arcsecond
  let warning :=
    if Angle.ofDegrees 10.0 < p.latitude && divergenceBound < separation then
      let distance := NumberText.fixed 1 separation
      let altitude := NumberText.fixed 2 (Angle.toDegrees p.latitude)
      let names := s!"{first.strategy.name} and {second.strategy.name}"
      [first.log.record .warn s!"{names} differ by {distance}\" at altitude {altitude}°"]
    else []
  return (separation, first.records s ++ second.records t ++ warning)

end Engine

end TelescopePointing
