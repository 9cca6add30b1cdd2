import TelescopePointing.Proofs.Sky.Rotation
import TelescopePointing.Proofs.Time.Resolved
import TelescopePointing.Earth.Orbit
import TelescopePointing.Earth.Orientation

namespace TelescopePointing.Earth

open Scalar

theorem proper_precession (days : ℝ) : (precession days).Proper :=
  ((Rotation.proper_frameZ _).compose (Rotation.proper_frameY _)).compose (Rotation.proper_frameZ _)

theorem proper_nutationRotation (days : ℝ) : (nutationRotation days).Proper :=
  ((Rotation.proper_frameX _).compose (Rotation.proper_frameZ _)).compose (Rotation.proper_frameX _)

/-- From the equator and equinox of J2000 to the true ones of date. -/
noncomputable def toDate (days : ℝ) : Rotation ℝ :=
  (nutationRotation days).compose (precession days)

theorem proper_toDate (days : ℝ) : (toDate days).Proper :=
  (proper_nutationRotation days).compose (proper_precession days)

noncomputable def sun (days : ℝ) : SolarOrbit ℝ := .at (centuries days)

theorem abs_centuries_le [NumberText ℝ] {instant : Instant} {time : ResolvedTime ℝ}
    (htime : ResolvedTime.resolve instant = .ok time) : |centuries time.terrestrialDays| ≤ 10 :=
  (ResolvedTime.resolve_eq_ok_iff.mp htime).2

theorem abs_mul_add_le {t a b : ℝ} (ht : |t| ≤ 10) (ha : |a| ≤ b) (c : ℝ) :
    |a * t + c| ≤ b * 10 + |c| := by
  have hmul : |a * t| ≤ b * 10 := by
    rw [abs_mul]
    gcongr
    exact (abs_nonneg a).trans ha
  linarith [abs_add_le (a * t) c]

theorem obliquity_eq (days : ℝ) : obliquity days =
    (((0.001813 * centuries days + -0.00059) * centuries days + -46.815) * centuries days +
      84381.448) * (Real.pi / 648000) := by
  norm_num [obliquity, Angle.arcsecond]
  ring

theorem eccentricity_eq (days : ℝ) : (sun days).eccentricity =
    (-0.0000001267 * centuries days + -0.000042037) * centuries days + 0.016708634 := by
  norm_num [sun, SolarOrbit.at]
  ring

section Reach

variable {days : ℝ} (hreach : |centuries days| ≤ 10)
include hreach

/-- Within reach the ecliptic stays inclined by less than a right angle, so its tangent exists. -/
theorem cos_obliquity_pos : 0 < Real.cos (obliquity days) := by
  have hcubic : |(0.001813 : ℝ)| ≤ 0.002 := by norm_num [abs_of_pos]
  have hseconds := abs_mul_add_le hreach (abs_mul_add_le hreach
    (abs_mul_add_le hreach hcubic (-0.00059)) (-46.815)) 84381.448
  have hacute : |obliquity days| < Real.pi / 2 := by
    rw [obliquity_eq, abs_mul, abs_of_pos (by positivity : 0 < Real.pi / 648000)]
    norm_num [abs_of_pos, abs_of_neg] at hseconds ⊢
    nlinarith [Real.pi_pos]
  exact Real.cos_pos_of_mem_Ioo (abs_lt.mp hacute)

theorem abs_eccentricity_le : |(sun days).eccentricity| ≤ 1 / 50 := by
  have hsquare : |(-0.0000001267 : ℝ)| ≤ 0.000001 := by norm_num [abs_of_neg]
  have h := abs_mul_add_le hreach (abs_mul_add_le hreach hsquare (-0.000042037)) 0.016708634
  rw [← eccentricity_eq] at h
  norm_num [abs_of_pos, abs_of_neg] at h
  linarith

/-- The root in the speed is that of a positive number, and the Earth needs more than fifty days for
the distance of the Sun. -/
theorem orbitalSpeed_mem : orbitalSpeed (sun days).eccentricity ∈ Set.Ioo 0 (1 / 50) := by
  have he := sq_le_sq' (neg_le_of_abs_le (abs_eccentricity_le hreach))
    (le_of_abs_le (abs_eccentricity_le hreach))
  have hroot : 0.9 < √(1 - (sun days).eccentricity * (sun days).eccentricity) := by
    apply Real.lt_sqrt_of_sq_lt
    norm_num
    nlinarith
  rw [orbitalSpeed, real_one, real_sqrt, Set.mem_Ioo, div_lt_iff₀ (by linarith)]
  constructor
  · apply div_pos _ (by linarith)
    norm_num
  · norm_num at hroot ⊢
    linarith

end Reach

/-- The velocity of the Earth in the equator of date, as a multiple of its speed. -/
noncomputable def course (days : ℝ) : Direction ℝ :=
  let s := sun days
  let ahead := s.eccentricity * Real.cos s.perihelion - Real.cos s.trueLongitude
  ⟨Real.sin s.trueLongitude - s.eccentricity * Real.sin s.perihelion,
    Real.cos (obliquity days) * ahead, Real.sin (obliquity days) * ahead⟩

theorem dot_equatorialVelocity (days : ℝ) (v : Direction ℝ) : (equatorialVelocity days).dot v =
    orbitalSpeed (sun days).eccentricity * (course days).dot v := by
  rw [equatorialVelocity, Rotation.frameX_apply, Real.cos_neg, Real.sin_neg, ← sun]
  simp only [eclipticVelocity, course, Direction.dot_eq, Angle.halfTurn_eq, real_sin, real_cos,
    real_zero, Real.sin_add_pi, Real.cos_add_pi]
  ring

theorem precession_velocity (days : ℝ) :
    (precession days).apply (velocity days) = (equatorialVelocity days).shrink lightSpeed := by
  rw [velocity, Rotation.apply_shrink, (proper_precession days).apply_transpose]

theorem dot_course_self (days : ℝ) : (course days).dot (course days) =
    1 + (sun days).eccentricity ^ 2 - 2 * (sun days).eccentricity *
      Real.cos ((sun days).trueLongitude - (sun days).perihelion) := by
  rw [Real.cos_sub]
  simp only [course, Direction.dot_eq]
  generalize sun days = s
  linear_combination Real.sin_sq_add_cos_sq s.trueLongitude +
    s.eccentricity ^ 2 * Real.sin_sq_add_cos_sq s.perihelion +
    (s.eccentricity * Real.cos s.perihelion - Real.cos s.trueLongitude) ^ 2 *
      Real.sin_sq_add_cos_sq (obliquity days)

theorem dot_course_le {days : ℝ} (hreach : |centuries days| ≤ 10) :
    (course days).dot (course days) ≤ 2 := by
  have he := abs_eccentricity_le hreach
  have hturned : |(sun days).eccentricity *
      Real.cos ((sun days).trueLongitude - (sun days).perihelion)| ≤ 1 / 50 := by
    rw [abs_mul]
    exact (mul_le_of_le_one_right (abs_nonneg _) (Real.abs_cos_le_one _)).trans he
  have hsquare := sq_le_sq' (neg_le_of_abs_le he) (le_of_abs_le he)
  have hlow := neg_le_of_abs_le hturned
  rw [dot_course_self]
  norm_num at hsquare
  linarith

/-- The Earth is slower than light. -/
theorem dot_velocity_lt_one {days : ℝ} (hreach : |centuries days| ≤ 10) :
    (velocity days).dot (velocity days) < 1 := by
  obtain ⟨hspeed, hslow⟩ := orbitalSpeed_mem hreach
  have hlight : 1 ≤ (lightSpeed : ℝ) := by norm_num [lightSpeed]
  have hself : (velocity days).dot (velocity days) =
      orbitalSpeed (sun days).eccentricity ^ 2 * (course days).dot (course days) /
        lightSpeed ^ 2 := by
    rw [← (proper_precession days).dot_apply, precession_velocity, Direction.dot_shrink_self,
      dot_equatorialVelocity, Direction.dot_comm (course days), dot_equatorialVelocity]
    ring
  have hcourse := dot_course_le hreach
  rw [hself, div_lt_one (by positivity)]
  nlinarith [Direction.dot_self_nonneg (course days)]

end TelescopePointing.Earth
