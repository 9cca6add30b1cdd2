import TelescopePointing.Earth.Orbit

namespace TelescopePointing.Aberration

variable {α : Type} [Scalar α]

/-- The direction in which an observer who moves sees a star; the velocity is in units of the speed
of light. -/
def displace (star velocity : Direction α) : Direction α :=
  (star.normalize.add velocity).normalize

def constant : α := 20.49552 * Angle.arcsecond

/-- The almanac corrections of right ascension and declination, with the terms of the eccentric
orbit. At the poles, where right ascension loses its meaning, its correction is zero. -/
def corrections (rightAscension declination : α) (days : α) : α × α :=
  let sun := Earth.SolarOrbit.at (Earth.centuries days)
  let obliquity := Earth.obliquity days
  let k := constant
  let e := sun.eccentricity
  let sa := Scalar.sin rightAscension
  let ca := Scalar.cos rightAscension
  let sd := Scalar.sin declination
  let cd := Scalar.cos declination
  let ss := Scalar.sin sun.trueLongitude
  let cs := Scalar.cos sun.trueLongitude
  let sp := Scalar.sin sun.perihelion
  let cp := Scalar.cos sun.perihelion
  let ce := Scalar.cos obliquity
  let te := Scalar.sin obliquity / ce
  let ascension :=
    if Scalar.abs cd < 1e-9 then 0.0
    else (-k * (ca * cs * ce + sa * ss) + e * k * (ca * cp * ce + sa * sp)) / cd
  (ascension,
    -k * (cs * ce * (te * cd - sa * sd) + ca * sd * ss)
      + e * k * (cp * ce * (te * cd - sa * sd) + ca * sd * sp))

end TelescopePointing.Aberration
