import TelescopePointing.Angle

namespace TelescopePointing

variable {α : Type} [Scalar α]

/-- The air at the telescope: degrees Celsius, the pressure of the station in hectopascal, and the
relative humidity from zero to one. -/
structure Atmosphere (α : Type) where
  temperature : α
  pressure : α
  humidity : α

/-- Without pressure nothing is refracted. -/
def Atmosphere.vacuum : Atmosphere α := ⟨0.0, 0.0, 0.0⟩

namespace Refraction

/-- The coefficients of `a · tan z + b · tan³ z` for the zenith distance `z`. -/
structure Coefficients (α : Type) where
  a : α
  b : α

/-- The pressure of the water vapour at the observer; none without air. -/
def vapourPressure (pressure temperature humidity : α) : α :=
  if 0.0 < pressure then
    let saturation := Scalar.pow 10.0
        ((0.7859 + 0.03477 * temperature) / (1.0 + 0.00412 * temperature))
      * (1.0 + pressure * (4.5e-6 + 6e-10 * temperature * temperature))
    humidity * saturation / (1.0 - (1.0 - humidity) * saturation / pressure)
  else 0.0

/-- The coefficients for visible and infrared light. Every condition is first brought into the range
in which the fit was made; the wavelength is in micrometers. -/
def Coefficients.ofAir (air : Atmosphere α) (wavelength : α) : Coefficients α :=
  let temperature := Scalar.clamp (-150.0) 200.0 air.temperature
  let pressure := Scalar.clamp 0.0 10000.0 air.pressure
  let humidity := Scalar.clamp 0.0 1.0 air.humidity
  let w := Scalar.clamp 0.1 100.0 wavelength
  let vapour := vapourPressure pressure temperature humidity
  let kelvin := temperature + 273.15
  let square := w * w
  let dispersion := 77.53484e-6 + (4.39108e-7 + 3.666e-9 / square) / square
  let gamma := (dispersion * pressure - 11.2684e-6 * vapour) / kelvin
  let beta := 4.4474e-6 * kelvin
  ⟨gamma * (1.0 - beta), -gamma * (beta - gamma / 2.0)⟩

/-- How far a star is raised at an altitude. Near the horizon the tangent is capped. -/
def Coefficients.correction (k : Coefficients α) (altitude : α) : α :=
  let r := Scalar.max (Scalar.cos altitude) 1e-6
  let z := Scalar.max (Scalar.sin altitude) 0.05
  let tangent := r / z
  let w := k.b * tangent * tangent
  (k.a + w) * tangent / (1.0 + (k.a + 3.0 * w) / (z * z))

/-- The wavelength at which the telescope observes. -/
def observingWavelength : α := 0.5

/-- The two-coefficient model at the observing wavelength. -/
def tangentModel (altitude : α) (air : Atmosphere α) : α :=
  (Coefficients.ofAir air observingWavelength).correction altitude

/-- The cotangent formula with its small periodic correction, scaled by pressure and temperature.
Two degrees below the horizon it ends. -/
def cotangentModel (altitude pressure temperature : α) : α :=
  let h := Angle.toDegrees altitude
  if h < -2.0 then 0.0
  else
    let first := 1.0 / Scalar.tan (Angle.ofDegrees (h + 7.31 / (h + 4.4)))
    let second := first - 0.06 * Scalar.sin (Angle.ofDegrees (14.7 * first / 60.0 + 13.0))
    let minutes := second * ((pressure / 1010.0) * (283.0 / (273.0 + temperature)))
    Angle.ofDegrees (minutes / 60.0)

end Refraction

end TelescopePointing
