import TelescopePointing.Proofs.Earth.Orbit
import TelescopePointing.Proofs.Scalar.Real
import TelescopePointing.Earth.Aberration

namespace TelescopePointing.Aberration

open Scalar Earth

section Corrections

variable {rightAscension declination days : ℝ}

theorem cos_ne_zero_of_pole (hpole : 1e-9 ≤ |Real.cos declination|) :
    Real.cos declination ≠ 0 := by
  intro hzero
  rw [hzero, abs_zero] at hpole
  norm_num at hpole

theorem corrections_east (hpole : 1e-9 ≤ |Real.cos declination|) :
    Real.cos declination * (corrections rightAscension declination days).1 =
      constant * (course days).dot (.east rightAscension) := by
  have hcos := cos_ne_zero_of_pole hpole
  simp only [corrections, real_abs, real_cos, real_sin, if_neg (not_lt.mpr hpole)]
  rw [mul_div_cancel₀ _ hcos]
  simp only [course, sun, Direction.dot_eq, Direction.east]
  ring

/-- The tangent of the obliquity is only a way to write its sine. -/
theorem corrections_north (hobliquity : Real.cos (obliquity days) ≠ 0) :
    (corrections rightAscension declination days).2 =
      constant * (course days).dot (.north rightAscension declination) := by
  have hsin : Real.sin (obliquity days) / Real.cos (obliquity days) * Real.cos (obliquity days) =
      Real.sin (obliquity days) := div_mul_cancel₀ _ hobliquity
  simp only [corrections, sun, real_cos, real_sin, course, Direction.dot_eq, Direction.north]
  generalize SolarOrbit.at (centuries days) = s
  linear_combination constant * Real.cos declination *
    (s.eccentricity * Real.cos s.perihelion - Real.cos s.trueLongitude) * hsin

end Corrections

/-- The almanac corrections are what a star is moved toward the east and toward the north by the
velocity of the Earth, in proportion to the constant of aberration and the speed on a circle. -/
theorem corrections_tangential [NumberText ℝ] {instant : Instant} {time : ResolvedTime ℝ}
    (htime : ResolvedTime.resolve instant = .ok time) {declination : ℝ}
    (hpole : 1e-9 ≤ |Real.cos declination|) (rightAscension : ℝ) :
    let days := time.terrestrialDays
    let speed := orbitalSpeed (SolarOrbit.at (centuries days)).eccentricity
    let velocity := equatorialVelocity days
    let shift := corrections rightAscension declination days
    0 < speed ∧
      speed * Real.cos declination * shift.1 = constant * velocity.dot (.east rightAscension) ∧
      speed * shift.2 = constant * velocity.dot (.north rightAscension declination) := by
  have hreach := abs_centuries_le htime
  refine ⟨(orbitalSpeed_mem hreach).1, ?_, ?_⟩
  · rw [dot_equatorialVelocity, mul_assoc, corrections_east hpole]
    exact mul_left_comm _ _ _
  · rw [dot_equatorialVelocity, corrections_north (cos_obliquity_pos hreach).ne']
    exact mul_left_comm _ _ _

theorem corrections_tangential_south : letI := roundedText
    let instant : Instant := ⟨0, .utc⟩
    let time : ResolvedTime ℝ := .ofInstant instant
    let days := time.terrestrialDays
    let speed := orbitalSpeed (SolarOrbit.at (centuries days)).eccentricity
    let velocity := equatorialVelocity days
    let shift := corrections (Real.pi / 2) (-(Real.pi / 3)) days
    (ResolvedTime.resolve instant = .ok time ∧ 1e-9 ≤ |Real.cos (-(Real.pi / 3))|) ∧
      0 < speed ∧
      speed * Real.cos (-(Real.pi / 3)) * shift.1 =
        constant * velocity.dot (.east (Real.pi / 2)) ∧
      speed * shift.2 = constant * velocity.dot (.north (Real.pi / 2) (-(Real.pi / 3))) := by
  let := roundedText
  intro instant time
  have htime : ResolvedTime.resolve instant = .ok time :=
    ResolvedTime.resolve_ofInstant (by decide) (by decide)
  have hpole : 1e-9 ≤ |Real.cos (-(Real.pi / 3))| := by
    rw [Real.cos_neg, Real.cos_pi_div_three]
    norm_num
  exact ⟨⟨htime, hpole⟩, corrections_tangential htime hpole (Real.pi / 2)⟩

end TelescopePointing.Aberration
