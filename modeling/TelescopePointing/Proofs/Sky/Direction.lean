import TelescopePointing.Proofs.Angle
import TelescopePointing.Sky.Direction

namespace TelescopePointing

open Scalar

namespace Direction

theorem ofAngles_eq (longitude latitude : ℝ) : ofAngles longitude latitude =
    ⟨Real.cos latitude * Real.cos longitude, Real.cos latitude * Real.sin longitude,
      Real.sin latitude⟩ := rfl

theorem dot_eq (v w : Direction ℝ) : v.dot w = v.x * w.x + v.y * w.y + v.z * w.z := rfl

theorem dot_comm (v w : Direction ℝ) : v.dot w = w.dot v := by
  rw [dot_eq, dot_eq]
  ring

theorem dot_self_nonneg (v : Direction ℝ) : 0 ≤ v.dot v := by
  have hx := mul_self_nonneg v.x
  have hy := mul_self_nonneg v.y
  have hz := mul_self_nonneg v.z
  rw [dot_eq]
  linarith

theorem dot_shrink_self (v : Direction ℝ) (k : ℝ) :
    (v.shrink k).dot (v.shrink k) = v.dot v / k ^ 2 := by
  simp only [shrink, dot_eq]
  ring

noncomputable def east (longitude : ℝ) : Direction ℝ :=
  ⟨-Real.sin longitude, Real.cos longitude, 0⟩

noncomputable def north (longitude latitude : ℝ) : Direction ℝ :=
  ⟨-Real.sin latitude * Real.cos longitude, -Real.sin latitude * Real.sin longitude,
    Real.cos latitude⟩

theorem dot_ofAngles_self (longitude latitude : ℝ) :
    (ofAngles longitude latitude).dot (ofAngles longitude latitude) = 1 := by
  rw [ofAngles_eq, dot_eq]
  linear_combination Real.cos latitude ^ 2 * Real.sin_sq_add_cos_sq longitude +
    Real.sin_sq_add_cos_sq latitude

/-- The longitude and the latitude of a vector of length one. On the axis the longitude is zero. -/
noncomputable def angles (v : Direction ℝ) : ℝ × ℝ :=
  (atan2 v.y v.x, asin (clamp (-1.0) 1.0 v.z))

theorem clamp_z {v : Direction ℝ} (h : v.dot v = 1) : clamp (-1.0) 1.0 v.z = v.z := by
  have hz : v.z ^ 2 ≤ 1 := by
    rw [dot_eq] at h
    nlinarith [sq_nonneg v.x, sq_nonneg v.y]
  rw [real_one]
  exact clamp_of_mem ⟨by nlinarith, by nlinarith⟩

theorem angles_latitude_mem (v : Direction ℝ) : v.angles.2 ∈ Angle.latitudes :=
  Real.arcsin_mem_Icc _

/-- The angles of a vector lead back to it, also on the axis. -/
theorem ofAngles_angles {v : Direction ℝ} (h : v.dot v = 1) :
    ofAngles v.angles.1 v.angles.2 = v := by
  have hangles : v.angles = (Complex.arg ⟨v.x, v.y⟩, Real.arcsin v.z) := by
    rw [angles, clamp_z h]
    rfl
  rw [dot_eq] at h
  have hz : v.z ^ 2 ≤ 1 := by nlinarith [sq_nonneg v.x, sq_nonneg v.y]
  have hcos : Real.cos (Real.arcsin v.z) = ‖(⟨v.x, v.y⟩ : ℂ)‖ := by
    rw [Real.cos_arcsin, Complex.norm_def, Complex.normSq_mk]
    congr 1
    linarith
  have hsin : Real.sin (Real.arcsin v.z) = v.z :=
    Real.sin_arcsin (by nlinarith) (by nlinarith)
  rw [hangles, ofAngles_eq, hcos, hsin, Complex.norm_mul_cos_arg, Complex.norm_mul_sin_arg]

theorem ofAngles_inj {l b l' b' : ℝ} (h : ofAngles l' b' = ofAngles l b) (hb : b ∈ Angle.latitudes)
    (hb' : b' ∈ Angle.latitudes) :
    b' = b ∧ (Real.cos b ≠ 0 → Angle.signed l' = Angle.signed l) := by
  simp only [ofAngles_eq, Direction.mk.injEq] at h
  obtain ⟨hx, hy, hz⟩ := h
  obtain rfl : b' = b := Real.injOn_sin hb' hb hz
  exact ⟨rfl, fun hne => Angle.signed_eq_of_cos_sin (mul_left_cancel₀ hne hx)
    (mul_left_cancel₀ hne hy)⟩

end Direction

end TelescopePointing
