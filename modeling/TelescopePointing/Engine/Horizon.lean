import TelescopePointing.Angle

namespace TelescopePointing.Horizon

variable {α : Type} [Scalar α]

/-- The azimuth from north through east and the altitude of a point at an hour angle and a
declination, seen from a latitude. -/
def ofHourAngle (hourAngle declination latitude : α) : α × α :=
  let sh := Scalar.sin hourAngle
  let ch := Scalar.cos hourAngle
  let sd := Scalar.sin declination
  let cd := Scalar.cos declination
  let sp := Scalar.sin latitude
  let cp := Scalar.cos latitude
  (Scalar.atan2 (-cd * sh) (sd * cp - cd * ch * sp),
    Scalar.asin (Scalar.clamp (-1.0) 1.0 (sp * sd + cp * cd * ch)))

/-- The hour angle and declination of a point at an azimuth from north through east and an altitude,
seen from a latitude. -/
def toHourAngle (azimuth altitude latitude : α) : α × α :=
  let sa := Scalar.sin azimuth
  let ca := Scalar.cos azimuth
  let se := Scalar.sin altitude
  let ce := Scalar.cos altitude
  let sp := Scalar.sin latitude
  let cp := Scalar.cos latitude
  (Scalar.atan2 (-ce * sa) (cp * se - sp * ce * ca),
    Scalar.asin (Scalar.clamp (-1.0) 1.0 (sp * se + cp * ce * ca)))

end TelescopePointing.Horizon
