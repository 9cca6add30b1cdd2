import TelescopePointing.Proofs.Sky.Placement

namespace TelescopePointing

open Scalar

namespace Angle

theorem cos_eq_of_modEq {x y : ℝ} (h : x ≡ y [PMOD 2 * Real.pi]) : Real.cos x = Real.cos y := by
  obtain ⟨k, rfl⟩ := AddCommGroup.modEq_iff_eq_add_zsmul.mp h
  rw [zsmul_eq_mul, Real.cos_add_int_mul_two_pi]

theorem sin_eq_of_modEq {x y : ℝ} (h : x ≡ y [PMOD 2 * Real.pi]) : Real.sin x = Real.sin y := by
  obtain ⟨k, rfl⟩ := AddCommGroup.modEq_iff_eq_add_zsmul.mp h
  rw [zsmul_eq_mul, Real.sin_add_int_mul_two_pi]

end Angle

namespace Direction

theorem length_eq (v : Direction ℝ) : v.length = √(v.dot v) := rfl

theorem dot_cross_self (v w : Direction ℝ) :
    (v.cross w).dot (v.cross w) = v.dot v * w.dot w - v.dot w ^ 2 := by
  simp only [cross, dot_eq]
  ring

theorem angle_congr {v w v' w' : Direction ℝ} (hv : v'.dot v' = v.dot v)
    (hw : w'.dot w' = w.dot w) (hvw : v'.dot w' = v.dot w) : v'.angle w' = v.angle w := by
  simp only [angle, length_eq, dot_cross_self, hv, hw, hvw]

theorem dot_ofAngles (l b l' b' : ℝ) : (ofAngles l b).dot (ofAngles l' b') =
    Real.cos b * Real.cos b' * Real.cos (l - l') + Real.sin b * Real.sin b' := by
  rw [ofAngles_eq, ofAngles_eq, dot_eq, Real.cos_sub]
  ring

/-- Directions keep their product when they turn about the axis together, and when they are
reflected in one meridian. -/
theorem dot_ofAngles_congr {l l' m m' : ℝ} (h : |m - m'| = |l - l'|) (b b' : ℝ) :
    (ofAngles m b).dot (ofAngles m' b') = (ofAngles l b).dot (ofAngles l' b') := by
  rw [dot_ofAngles, dot_ofAngles, ← Real.cos_abs (m - m'), h, Real.cos_abs]

theorem ofAngles_eq_of_modEq {l l' : ℝ} (h : l ≡ l' [PMOD 2 * Real.pi]) (b : ℝ) :
    ofAngles l b = ofAngles l' b := by
  rw [ofAngles_eq, ofAngles_eq, Angle.cos_eq_of_modEq h, Angle.sin_eq_of_modEq h]

theorem length_mul_self (v : Direction ℝ) : v.length * v.length = v.dot v :=
  Real.mul_self_sqrt v.dot_self_nonneg

theorem normalize_of_length {v : Direction ℝ} (h : v.length = 1) : v.normalize = v := by
  simp only [normalize, shrink, h, div_one]

theorem length_normalize {v : Direction ℝ} (h : v.length ≠ 0) : v.normalize.length = 1 := by
  have hself : v.dot v = v.length ^ 2 := by rw [sq, length_mul_self]
  rw [length_eq, normalize, dot_shrink_self, hself, div_self (pow_ne_zero 2 h), Real.sqrt_one]

theorem latitude_mem (v : Direction ℝ) : v.latitude ∈ Angle.latitudes := by
  have harg : |v.latitude| ≤ Real.pi / 2 :=
    Complex.abs_arg_le_pi_div_two_iff.mpr (by simp)
  exact abs_le.mp harg

/-- The angles of a vector of any length lead to its direction, also on the axis. -/
theorem ofAngles_longitude_latitude {v : Direction ℝ} (h : v.length ≠ 0) :
    ofAngles v.longitude v.latitude = v.normalize := by
  have hflat : ‖(⟨v.x, v.y⟩ : ℂ)‖ = hypot v.x v.y := by
    rw [Complex.norm_def, Complex.normSq_mk, real_hypot]
  have hwhole : ‖(⟨hypot v.x v.y, v.z⟩ : ℂ)‖ = v.length := by
    have hnonneg := add_nonneg (mul_self_nonneg v.x) (mul_self_nonneg v.y)
    rw [Complex.norm_def, Complex.normSq_mk, real_hypot, Real.mul_self_sqrt hnonneg]
    rfl
  have hx : hypot v.x v.y * Real.cos v.longitude = v.x := hflat ▸ Complex.norm_mul_cos_arg _
  have hy : hypot v.x v.y * Real.sin v.longitude = v.y := hflat ▸ Complex.norm_mul_sin_arg _
  have hcos : Real.cos v.latitude = hypot v.x v.y / v.length :=
    eq_div_of_mul_eq h (mul_comm v.length _ ▸ hwhole ▸ Complex.norm_mul_cos_arg _)
  have hsin : Real.sin v.latitude = v.z / v.length :=
    eq_div_of_mul_eq h (mul_comm v.length _ ▸ hwhole ▸ Complex.norm_mul_sin_arg _)
  rw [ofAngles_eq, hcos, hsin, div_mul_eq_mul_div, div_mul_eq_mul_div, hx, hy]
  rfl

theorem length_add_ne_zero {v w : Direction ℝ} (hv : v.length = 1) (hw : w.dot w < 1) :
    (v.add w).length ≠ 0 := by
  intro hzero
  have hunit := v.length_mul_self
  have hnone := (v.add w).length_mul_self
  have hproduct := (v.cross w).dot_self_nonneg
  have hsum : (v.add w).dot (v.add w) = v.dot v + 2 * v.dot w + w.dot w := by
    simp only [add, dot_eq]
    ring
  rw [hv, one_mul] at hunit
  rw [hzero, zero_mul, hsum, ← hunit] at hnone
  rw [dot_cross_self, ← hunit] at hproduct
  nlinarith

end Direction

namespace SkyPosition

variable {p p' q q' : SkyPosition ℝ} {l b : ℝ} {frame : Frame} {instant : Instant}

theorem Represents.direction_eq (h : p.Represents l b frame instant) (hb : b ∈ Angle.latitudes) :
    p.direction = .ofAngles l b := by
  rw [direction, h.latitude_eq hb, Direction.ofAngles_eq_of_modEq h.longitude_modEq]

theorem length_direction (p : SkyPosition ℝ) : p.direction.length = 1 := by
  rw [Direction.length_eq, direction, Direction.dot_ofAngles_self, Real.sqrt_one]

theorem direction_ofDirection {v : Direction ℝ} (h : v.length ≠ 0) (frame : Frame)
    (instant : Instant) : (ofDirection v frame instant).direction = v.normalize := by
  have hrepresents := make_represents v.longitude v.latitude frame instant
  rw [ofDirection, hrepresents.direction_eq v.latitude_mem,
    Direction.ofAngles_longitude_latitude h]

theorem separation_congr (h : p'.direction.dot q'.direction = p.direction.dot q.direction) :
    p'.separation q' = p.separation q :=
  Direction.angle_congr (by simp only [direction, Direction.dot_ofAngles_self])
    (by simp only [direction, Direction.dot_ofAngles_self]) h

theorem separation_ofDirection {v w : Direction ℝ} (hv : v.length = 1) (hw : w.length = 1)
    (frame : Frame) (instant : Instant) :
    (ofDirection v frame instant).separation (ofDirection w frame instant) = v.angle w := by
  rw [separation, direction_ofDirection (hv ▸ one_ne_zero), direction_ofDirection (hw ▸ one_ne_zero),
    Direction.normalize_of_length hv, Direction.normalize_of_length hw]

end SkyPosition

end TelescopePointing
