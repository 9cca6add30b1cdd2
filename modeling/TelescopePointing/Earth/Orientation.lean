import TelescopePointing.Angle
import TelescopePointing.Sky.Direction
import TelescopePointing.Time.Resolved

namespace TelescopePointing.Earth

variable {α : Type} [Scalar α]

/-- Polynomials in the centuries from J2000 of a modified Julian day of terrestrial time. -/
def centuries (days : α) : α := ResolvedTime.centuriesFrom2000 days

/-- The angle between the equator and the ecliptic of date. -/
def obliquity (days : α) : α :=
  let t := centuries days
  let c0 := ((23.0 * 3600.0 + 26.0 * 60.0) + 21.448) * Angle.arcsecond
  let c1 := -46.815 * Angle.arcsecond
  let c2 := -0.00059 * Angle.arcsecond
  let c3 := 0.001813 * Angle.arcsecond
  ((c3 * t + c2) * t + c1) * t + c0

/-- A periodic term of the nutation. The first five numbers multiply the fundamental arguments. The
coefficients are in units of 0.0001″, their rates in tenths of that unit per century. -/
structure NutationTerm where
  elongation : Int
  sunAnomaly : Int
  moonAnomaly : Int
  nodeDistance : Int
  node : Int
  longitude : Int
  longitudeRate : Int
  obliquity : Int
  obliquityRate : Int

/-- The terms of the 1980 series that reach 0.0003″. -/
def nutationTerms : List NutationTerm := [
  ⟨0, 0, 0, 0, 1, -171996, -1742, 92025, 89⟩,
  ⟨-2, 0, 0, 2, 2, -13187, -16, 5736, -31⟩,
  ⟨0, 0, 0, 2, 2, -2274, -2, 977, -5⟩,
  ⟨0, 0, 0, 0, 2, 2062, 2, -895, 5⟩,
  ⟨0, 1, 0, 0, 0, 1426, -34, 54, -1⟩,
  ⟨0, 0, 1, 0, 0, 712, 1, -7, 0⟩,
  ⟨-2, 1, 0, 2, 2, -517, 12, 224, -6⟩,
  ⟨0, 0, 0, 2, 1, -386, -4, 200, 0⟩,
  ⟨0, 0, 1, 2, 2, -301, 0, 129, -1⟩,
  ⟨-2, -1, 0, 2, 2, 217, -5, -95, 3⟩,
  ⟨-2, 0, 1, 0, 0, -158, 0, 0, 0⟩,
  ⟨-2, 0, 0, 2, 1, 129, 1, -70, 0⟩,
  ⟨0, 0, -1, 2, 2, 123, 0, -53, 0⟩,
  ⟨2, 0, 0, 0, 0, 63, 0, 0, 0⟩,
  ⟨0, 0, 1, 0, 1, 63, 1, -33, 0⟩,
  ⟨2, 0, -1, 2, 2, -59, 0, 26, 0⟩,
  ⟨0, 0, -1, 0, 1, -58, -1, 32, 0⟩,
  ⟨0, 0, 1, 2, 1, -51, 0, 27, 0⟩,
  ⟨-2, 0, 2, 0, 0, 48, 0, 0, 0⟩,
  ⟨0, 0, -2, 2, 1, 46, 0, -24, 0⟩,
  ⟨2, 0, 0, 2, 2, -38, 0, 16, 0⟩,
  ⟨0, 0, 2, 2, 2, -31, 0, 13, 0⟩,
  ⟨0, 0, 2, 0, 0, 29, 0, 0, 0⟩,
  ⟨-2, 0, 1, 2, 2, 29, 0, -12, 0⟩,
  ⟨0, 0, 0, 2, 0, 26, 0, 0, 0⟩,
  ⟨-2, 0, 0, 2, 0, -22, 0, 0, 0⟩,
  ⟨0, 0, -1, 2, 1, 21, 0, -10, 0⟩,
  ⟨0, 2, 0, 0, 0, 17, -1, 0, 0⟩,
  ⟨2, 0, -1, 0, 1, 16, 0, -8, 0⟩,
  ⟨-2, 2, 0, 2, 2, -16, 1, 7, 0⟩,
  ⟨0, 1, 0, 0, 1, -15, 0, 9, 0⟩,
  ⟨-2, 0, 1, 0, 1, -13, 0, 7, 0⟩,
  ⟨0, -1, 0, 0, 1, -12, 0, 6, 0⟩,
  ⟨0, 0, 2, -2, 0, 11, 0, 0, 0⟩,
  ⟨2, 0, -1, 2, 1, -10, 0, 5, 0⟩,
  ⟨2, 0, 1, 2, 2, -8, 0, 3, 0⟩,
  ⟨0, 1, 0, 2, 2, 7, 0, -3, 0⟩,
  ⟨-2, 1, 1, 0, 0, -7, 0, 0, 0⟩,
  ⟨0, -1, 0, 2, 2, -7, 0, 3, 0⟩,
  ⟨2, 0, 0, 2, 1, -7, 0, 3, 0⟩,
  ⟨2, 0, 1, 0, 0, 6, 0, 0, 0⟩,
  ⟨-2, 0, 2, 2, 2, 6, 0, -3, 0⟩,
  ⟨-2, 0, 1, 2, 1, 6, 0, -3, 0⟩,
  ⟨2, 0, -2, 0, 1, -6, 0, 3, 0⟩,
  ⟨2, 0, 0, 0, 1, -6, 0, 3, 0⟩,
  ⟨0, -1, 1, 0, 0, 5, 0, 0, 0⟩,
  ⟨-2, -1, 0, 2, 1, -5, 0, 3, 0⟩,
  ⟨-2, 0, 0, 0, 1, -5, 0, 3, 0⟩,
  ⟨0, 0, 2, 2, 1, -5, 0, 3, 0⟩,
  ⟨-2, 0, 2, 0, 1, 4, 0, 0, 0⟩,
  ⟨-2, 1, 0, 2, 1, 4, 0, 0, 0⟩,
  ⟨0, 0, 1, -2, 0, 4, 0, 0, 0⟩,
  ⟨-1, 0, 1, 0, 0, -4, 0, 0, 0⟩,
  ⟨-2, 1, 0, 0, 0, -4, 0, 0, 0⟩,
  ⟨1, 0, 0, 0, 0, -4, 0, 0, 0⟩,
  ⟨0, 0, 1, 2, 0, 3, 0, 0, 0⟩,
  ⟨0, 0, -2, 2, 2, -3, 0, 0, 0⟩,
  ⟨-1, -1, 1, 0, 0, -3, 0, 0, 0⟩,
  ⟨0, 1, 1, 0, 0, -3, 0, 0, 0⟩,
  ⟨0, -1, 1, 2, 2, -3, 0, 0, 0⟩,
  ⟨2, -1, -1, 2, 2, -3, 0, 0, 0⟩,
  ⟨0, 0, 3, 2, 2, -3, 0, 0, 0⟩,
  ⟨2, -1, 0, 2, 2, -3, 0, 0, 0⟩]

/-- The mean elongation of the Moon, the mean anomalies of the Sun and the Moon, the distance of the
Moon from its ascending node, and the longitude of that node, in degrees. -/
structure Fundamental (α : Type) where
  elongation : α
  sunAnomaly : α
  moonAnomaly : α
  nodeDistance : α
  node : α

def fundamental (t : α) : Fundamental α :=
  let t2 := t * t
  let t3 := t2 * t
  { elongation := 297.85036 + 445267.111480 * t - 0.0019142 * t2 + t3 / 189474.0
    sunAnomaly := 357.52772 + 35999.050340 * t - 0.0001603 * t2 - t3 / 300000.0
    moonAnomaly := 134.96298 + 477198.867398 * t + 0.0086972 * t2 + t3 / 56250.0
    nodeDistance := 93.27191 + 483202.017538 * t - 0.0036825 * t2 + t3 / 327270.0
    node := 125.04452 - 1934.136261 * t + 0.0020708 * t2 + t3 / 450000.0 }

def NutationTerm.argument (k : NutationTerm) (f : Fundamental α) : α :=
  Scalar.sum [Scalar.ofInt k.elongation * f.elongation, Scalar.ofInt k.sunAnomaly * f.sunAnomaly,
    Scalar.ofInt k.moonAnomaly * f.moonAnomaly, Scalar.ofInt k.nodeDistance * f.nodeDistance,
    Scalar.ofInt k.node * f.node] * Angle.degree

/-- A coefficient with its rate in tenths. -/
def coefficient (constant rate : Int) (t : α) : α :=
  Scalar.ofInt constant + Scalar.ofInt rate / 10.0 * t

structure Nutation (α : Type) where
  longitude : α
  obliquity : α

def nutation (days : α) : Nutation α :=
  let t := centuries days
  let f := fundamental t
  let total := nutationTerms.foldl (fun (n : Nutation α) k =>
    let a := k.argument f
    ⟨n.longitude + coefficient k.longitude k.longitudeRate t * Scalar.sin a,
      n.obliquity + coefficient k.obliquity k.obliquityRate t * Scalar.cos a⟩) ⟨0.0, 0.0⟩
  ⟨total.longitude * 1e-4, total.obliquity * 1e-4⟩

/-- From the mean equator and equinox of J2000 to those of date. -/
def precession (days : α) : Rotation α :=
  let t := centuries days
  let zeta := (0.6406161 + (0.0000839 + 0.0000050 * t) * t) * t * Angle.degree
  let z := (0.6406161 + (0.0003041 + 0.0000051 * t) * t) * t * Angle.degree
  let theta := (0.5567530 - (0.0001185 + 0.0000116 * t) * t) * t * Angle.degree
  ((Rotation.frameZ (-z)).compose (Rotation.frameY theta)).compose (Rotation.frameZ (-zeta))

/-- From the mean equator and equinox of date to the true ones. -/
def nutationRotation (days : α) : Rotation α :=
  let mean := obliquity days
  let n := nutation days
  let ofDate := mean + n.obliquity * Angle.arcsecond
  ((Rotation.frameX (-ofDate)).compose (Rotation.frameZ (-n.longitude * Angle.arcsecond))).compose
    (Rotation.frameX mean)

def equinoxEquation (days : α) : α :=
  (nutation days).longitude * Angle.arcsecond * Scalar.cos (obliquity days)

end TelescopePointing.Earth
