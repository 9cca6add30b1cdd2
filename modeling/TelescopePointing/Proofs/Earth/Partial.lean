import TelescopePointing.Proofs.Earth.Aberration
import TelescopePointing.Proofs.Sky.Partial

namespace TelescopePointing

open PartialReal Scalar

namespace Earth

@[simp] theorem centuries_of (days : ℝ) : centuries (of days) = of (centuries days) := by
  simp (disch := norm_num) only [centuries, ResolvedTime.centuriesFrom2000,
    ResolvedTime.epoch2000, of_scientific, of_sub, of_div]

@[simp] theorem obliquity_of (days : ℝ) : obliquity (of days) = of (obliquity days) := by
  simp only [obliquity, centuries_of, Angle.of_arcsecond, of_scientific, of_add, of_mul, of_neg]

@[simp] theorem precession_of (days : ℝ) : precession (of days) = (precession days).lift := by
  simp only [precession, centuries_of, Angle.of_degree, of_scientific, of_add, of_sub, of_mul,
    of_neg, Rotation.frameY_of, Rotation.frameZ_of, Rotation.compose_lift]

section Nutation

def Fundamental.lift (f : Fundamental ℝ) : Fundamental PartialReal :=
  ⟨of f.elongation, of f.sunAnomaly, of f.moonAnomaly, of f.nodeDistance, of f.node⟩

def Nutation.lift (n : Nutation ℝ) : Nutation PartialReal := ⟨of n.longitude, of n.obliquity⟩

@[simp] theorem fundamental_of (t : ℝ) : fundamental (of t) = (fundamental t).lift := by
  simp (disch := norm_num) only [fundamental, Fundamental.lift, of_scientific, of_add, of_sub,
    of_mul, of_div]

@[simp] theorem NutationTerm.argument_lift (k : NutationTerm) (f : Fundamental ℝ) :
    k.argument f.lift = of (k.argument f) := by
  simp only [argument, Fundamental.lift, Scalar.sum, List.foldl_cons, List.foldl_nil, of_ofInt,
    Angle.of_degree, of_scientific, of_add, of_mul]

@[simp] theorem coefficient_of (constant rate : Int) (t : ℝ) :
    coefficient constant rate (of t) = of (coefficient constant rate t) := by
  simp (disch := norm_num) only [coefficient, of_ofInt, of_scientific, of_add, of_mul, of_div]

/-- The terms are added one by one, and every sum on the way is defined. -/
@[simp] theorem nutation_of (days : ℝ) : nutation (of days) = (nutation days).lift := by
  have hstart : (⟨0.0, 0.0⟩ : Nutation PartialReal) = Nutation.lift ⟨0.0, 0.0⟩ := rfl
  simp only [nutation, centuries_of, fundamental_of, NutationTerm.argument_lift, coefficient_of,
    of_sin, of_cos, of_mul, hstart]
  rw [List.foldl_hom Nutation.lift]
  · rfl
  · exact fun n k => rfl

@[simp] theorem nutationRotation_of (days : ℝ) :
    nutationRotation (of days) = (nutationRotation days).lift := by
  simp only [nutationRotation, obliquity_of, nutation_of, Nutation.lift, Angle.of_arcsecond, of_add,
    of_mul, of_neg, Rotation.frameX_of, Rotation.frameZ_of, Rotation.compose_lift]

end Nutation

section Orbit

def SolarOrbit.lift (s : SolarOrbit ℝ) : SolarOrbit PartialReal :=
  ⟨of s.trueLongitude, of s.eccentricity, of s.perihelion⟩

@[simp] theorem SolarOrbit.at_of (t : ℝ) : SolarOrbit.at (of t) = (SolarOrbit.at t).lift := by
  simp only [SolarOrbit.at, lift, Angle.of_degree, Angle.of_fullTurn, of_scientific, of_add, of_sub,
    of_mul, of_sin, of_modulo Angle.fullTurn_pos.ne']

@[simp] theorem of_lightSpeed : (lightSpeed : PartialReal) = of lightSpeed := by
  simp (disch := norm_num) only [lightSpeed, of_scientific, of_mul, of_div]

/-- The orbit is an ellipse: the root in the speed is that of a positive number. -/
theorem orbitalSpeed_of {e : ℝ} (h : e * e < 1) : orbitalSpeed (of e) = of (orbitalSpeed e) := by
  have hpos : 0 < 1.0 - e * e := by
    rw [real_one]
    linarith
  simp only [orbitalSpeed, of_scientific, of_mul, of_sub, of_sqrt hpos.le]
  exact of_div (Real.sqrt_pos.mpr hpos).ne'

theorem velocity_of {days : ℝ}
    (h : (sun days).eccentricity * (sun days).eccentricity < 1) :
    velocity (of days) = (velocity days).lift := by
  have hlight : (lightSpeed : ℝ) ≠ 0 := by norm_num [lightSpeed]
  have hecliptic : eclipticVelocity (sun days).lift = (eclipticVelocity (sun days)).lift := by
    simp only [eclipticVelocity, SolarOrbit.lift, Direction.lift, orbitalSpeed_of h,
      Angle.of_halfTurn, of_add, of_mul, of_neg, of_sin, of_cos, of_scientific]
  have hequatorial : equatorialVelocity (of days) = (equatorialVelocity days).lift := by
    rw [equatorialVelocity, obliquity_of, centuries_of, SolarOrbit.at_of, of_neg,
      Rotation.frameX_of, ← sun, hecliptic, Rotation.apply_lift, equatorialVelocity, ← sun]
  rw [velocity, hequatorial, precession_of, Rotation.transpose_lift, Rotation.apply_lift,
    of_lightSpeed, Direction.shrink_lift _ hlight, velocity]

end Orbit

end Earth

namespace Aberration

/-- Two vectors are brought to length one, that of the star and the displaced one. -/
theorem displace_lift {star velocity : Direction ℝ} (hstar : star.length ≠ 0)
    (hseen : (star.normalize.add velocity).length ≠ 0) :
    displace star.lift velocity.lift = (displace star velocity).lift := by
  rw [displace, Direction.normalize_lift _ hstar, Direction.add_lift,
    Direction.normalize_lift _ hseen, displace]

/-- Near a pole the correction of right ascension is zero. -/
theorem corrections_near_pole {declination : ℝ} (h : |Real.cos declination| < 1e-9)
    (rightAscension days : ℝ) : (corrections rightAscension declination days).1 = 0 := by
  simp only [corrections, real_abs, real_cos, if_pos h, real_zero]

theorem corrections_of (rightAscension declination : ℝ) {days : ℝ}
    (hobliquity : Scalar.cos (Earth.obliquity days) ≠ 0) :
    corrections (of rightAscension) (of declination) (of days) =
      (of (corrections rightAscension declination days).1,
        of (corrections rightAscension declination days).2) := by
  have hconstant : (constant : PartialReal) = of constant := by
    simp only [constant, Angle.of_arcsecond, of_scientific, of_mul]
  -- The declination is a divisor only where its cosine is not below the bound.
  by_cases hpole : Scalar.abs (Scalar.cos declination) < (1e-9 : ℝ)
  · simp only [corrections, hconstant, Earth.centuries_of, Earth.obliquity_of,
      Earth.SolarOrbit.at_of, Earth.SolarOrbit.lift, of_sin, of_cos, of_abs, of_scientific, of_lt,
      hpole, if_true, of_neg, of_mul, of_add, of_sub, of_div hobliquity]
  · have hcos : Scalar.cos declination ≠ 0 := cos_ne_zero_of_pole (not_lt.mp hpole)
    simp only [corrections, hconstant, Earth.centuries_of, Earth.obliquity_of,
      Earth.SolarOrbit.at_of, Earth.SolarOrbit.lift, of_sin, of_cos, of_abs, of_scientific, of_lt,
      hpole, if_false, of_neg, of_mul, of_add, of_sub, of_div hobliquity, of_div hcos]

end Aberration

end TelescopePointing
