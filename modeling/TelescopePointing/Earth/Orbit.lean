import TelescopePointing.Earth.Orientation

namespace TelescopePointing.Earth

variable {α : Type} [Scalar α]

/-- The orbit of the Sun as seen from the Earth. -/
structure SolarOrbit (α : Type) where
  trueLongitude : α
  eccentricity : α
  perihelion : α

/-- The orbit at a count of centuries from J2000, good to a hundredth of a degree. -/
def SolarOrbit.at (t : α) : SolarOrbit α :=
  let meanLongitude := 280.46646 + (36000.76983 + 0.0003032 * t) * t
  let anomaly := (357.52911 + (35999.05029 - 0.0001537 * t) * t) * Angle.degree
  let centre := (1.914602 - (0.004817 + 0.000014 * t) * t) * Scalar.sin anomaly
    + (0.019993 - 0.000101 * t) * Scalar.sin (2.0 * anomaly)
    + 0.000289 * Scalar.sin (3.0 * anomaly)
  { trueLongitude := Scalar.modulo ((meanLongitude + centre) * Angle.degree) Angle.fullTurn
    eccentricity := 0.016708634 - (0.000042037 + 0.0000001267 * t) * t
    perihelion := (102.93735 + (1.71946 + 0.00046 * t) * t) * Angle.degree }

/-- The speed of light in astronomical units per day. -/
def lightSpeed : α := 2.99792458e5 / 149597870.7 * 86400.0

/-- The speed of the Earth on a circle of the size of its orbit, in astronomical units per day. The
first factor is the constant of gravitation of the solar system. -/
def orbitalSpeed (eccentricity : α) : α :=
  0.01720209895 / Scalar.sqrt (1.0 - eccentricity * eccentricity)

def eclipticVelocity (sun : SolarOrbit α) : Direction α :=
  let longitude := sun.trueLongitude + Angle.halfTurn
  let speed := orbitalSpeed sun.eccentricity
  ⟨-speed * (Scalar.sin longitude + sun.eccentricity * Scalar.sin sun.perihelion),
    speed * (Scalar.cos longitude + sun.eccentricity * Scalar.cos sun.perihelion), 0.0⟩

def equatorialVelocity (days : α) : Direction α :=
  (Rotation.frameX (-obliquity days)).apply (eclipticVelocity (.at (centuries days)))

/-- The velocity of the Earth in the equator of J2000, in units of the speed of light. -/
def velocity (days : α) : Direction α :=
  ((precession days).transpose.apply (equatorialVelocity days)).shrink lightSpeed

end TelescopePointing.Earth
