import TelescopePointing.Angle
import TelescopePointing.Time.Resolved

namespace TelescopePointing.Sidereal

variable {α : Type} [Scalar α]

/-- Greenwich mean sidereal time in two steps: a cubic in the centuries at midnight, and the turn of
the Earth since then. The day is a modified Julian day of universal time. -/
def sinceMidnight (days : α) : α :=
  let t := ResolvedTime.centuriesFrom2000 (Scalar.floor days)
  let atMidnight :=
    (((-6.2e-6 * t + 9.3104e-2) * t + 8640184.812866) * t + 24110.54841) * Angle.fullTurn / 86400.0
  let elapsed := Scalar.fract days * Angle.fullTurn
  Scalar.modulo (atMidnight + elapsed * 1.00273790934) Angle.fullTurn

/-- Greenwich mean sidereal time as one expression in the Julian day. -/
def continuous (julianDay : α) : α :=
  let d := julianDay - 2451545.0
  let t := d / 36525.0
  let theta := 280.46061837 + 360.98564736629 * d + 0.000387933 * t * t - t * t * t / 38710000.0
  Scalar.modulo (Angle.ofDegrees theta) Angle.fullTurn

end TelescopePointing.Sidereal
