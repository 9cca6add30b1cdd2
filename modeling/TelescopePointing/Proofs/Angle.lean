import Mathlib.Analysis.SpecialFunctions.Trigonometric.Angle
import TelescopePointing.Proofs.Scalar.Real
import TelescopePointing.Angle

namespace TelescopePointing.Angle

open Scalar

theorem fullTurn_eq : (fullTurn : ℝ) = 2 * Real.pi := by simp [fullTurn]

theorem halfTurn_eq : (halfTurn : ℝ) = Real.pi := rfl

theorem fullTurn_pos : 0 < (fullTurn : ℝ) := by
  rw [fullTurn_eq]
  exact Real.two_pi_pos

theorem modulo_lt (x : ℝ) {y : ℝ} (hy : 0 < y) : modulo x y < y := by
  have h := (div_lt_iff₀ hy).mp (Int.lt_floor_add_one (x / y))
  rw [real_modulo]
  linarith

theorem modulo_nonneg (x : ℝ) {y : ℝ} (hy : 0 < y) : 0 ≤ modulo x y := by
  have h := (le_div_iff₀ hy).mp (Int.floor_le (x / y))
  rw [real_modulo]
  linarith

theorem positive_eq (x : ℝ) : positive x = modulo x fullTurn :=
  if_neg (not_le.mpr (modulo_lt x fullTurn_pos))

theorem positive_nonneg (x : ℝ) : 0 ≤ positive x := by
  rw [positive_eq]
  exact modulo_nonneg x fullTurn_pos

theorem positive_lt (x : ℝ) : positive x < 2 * Real.pi := by
  rw [positive_eq, ← fullTurn_eq]
  exact modulo_lt x fullTurn_pos

theorem exists_positive_eq (x : ℝ) : ∃ k : ℤ, positive x = x + k * (2 * Real.pi) := by
  refine ⟨-⌊x / fullTurn⌋, ?_⟩
  rw [positive_eq, real_modulo, ← fullTurn_eq]
  push_cast
  ring

theorem exists_modulo_eq (x : ℝ) : ∃ k : ℤ, modulo x fullTurn = x + k * (2 * Real.pi) := by
  obtain ⟨k, hk⟩ := exists_positive_eq x
  exact ⟨k, positive_eq x ▸ hk⟩

theorem positive_add_turns (x : ℝ) (k : ℤ) : positive (x + k * (2 * Real.pi)) = positive x := by
  have hdiv : (x + k * fullTurn) / fullTurn = x / fullTurn + k := by
    rw [add_div, mul_div_cancel_right₀ _ fullTurn_pos.ne']
  rw [positive_eq, positive_eq, real_modulo, real_modulo, ← fullTurn_eq, hdiv,
    Int.floor_add_intCast]
  push_cast
  ring

theorem positive_positive_add (x y : ℝ) : positive (positive x + y) = positive (x + y) := by
  obtain ⟨k, hk⟩ := exists_positive_eq x
  rw [hk, add_right_comm, positive_add_turns]

theorem positive_positive (x : ℝ) : positive (positive x) = positive x := by
  simpa only [add_zero] using positive_positive_add x 0

theorem signed_add_turns (x : ℝ) (k : ℤ) : signed (x + k * (2 * Real.pi)) = signed x := by
  rw [signed, signed, add_right_comm, positive_add_turns]

theorem signed_of_mem {x : ℝ} (h : x ∈ Set.Ico (-Real.pi) Real.pi) : signed x = x := by
  have hfloor : ⌊(x + Real.pi) / (2 * Real.pi)⌋ = 0 := by
    rw [Int.floor_eq_zero_iff]
    refine ⟨div_nonneg (by linarith [h.1]) Real.two_pi_pos.le, ?_⟩
    rw [div_lt_one Real.two_pi_pos]
    linarith [h.2]
  rw [signed, positive_eq, real_modulo, fullTurn_eq, halfTurn_eq, hfloor]
  simp

def latitudes : Set ℝ := Set.Icc (-(Real.pi / 2)) (Real.pi / 2)

theorem latitude_of_mem {x : ℝ} (h : x ∈ latitudes) : latitude x = x := by
  rw [latitude]
  exact clamp_of_mem (by simpa [quarterTurn, latitudes] using h)

@[simp] theorem sin_positive (x : ℝ) : Real.sin (positive x) = Real.sin x := by
  obtain ⟨k, hk⟩ := exists_positive_eq x
  rw [hk, Real.sin_add_int_mul_two_pi]

@[simp] theorem cos_positive (x : ℝ) : Real.cos (positive x) = Real.cos x := by
  obtain ⟨k, hk⟩ := exists_positive_eq x
  rw [hk, Real.cos_add_int_mul_two_pi]

/-- The sine and the cosine tell an angle up to whole turns. -/
theorem signed_eq_of_cos_sin {x y : ℝ} (hcos : Real.cos x = Real.cos y)
    (hsin : Real.sin x = Real.sin y) : signed x = signed y := by
  obtain ⟨k, hk⟩ := Real.Angle.angle_eq_iff_two_pi_dvd_sub.mp (Real.Angle.cos_sin_inj hcos hsin)
  obtain rfl : x = y + k * (2 * Real.pi) := by linarith
  rw [signed_add_turns]

def Opposite (x y : ℝ) : Prop := ∃ k : ℤ, y = x + Real.pi + k * (2 * Real.pi)

namespace Opposite

variable {x y : ℝ}

theorem positive (h : Opposite x y) : Opposite (positive x) (positive y) := by
  obtain ⟨k, rfl⟩ := h
  obtain ⟨i, hi⟩ := exists_positive_eq x
  obtain ⟨j, hj⟩ := exists_positive_eq (x + Real.pi + k * (2 * Real.pi))
  refine ⟨k + j - i, ?_⟩
  rw [hi, hj]
  push_cast
  ring

theorem sub_halfTurn (x : ℝ) : Opposite x (x - halfTurn) := ⟨-1, by rw [halfTurn_eq]; ring⟩

theorem sin (h : Opposite x y) : Real.sin y = -Real.sin x := by
  obtain ⟨k, rfl⟩ := h
  rw [Real.sin_add_int_mul_two_pi, Real.sin_add_pi]

theorem cos (h : Opposite x y) : Real.cos y = -Real.cos x := by
  obtain ⟨k, rfl⟩ := h
  rw [Real.cos_add_int_mul_two_pi, Real.cos_add_pi]

theorem sin_double (h : Opposite x y) : Real.sin (2 * y) = Real.sin (2 * x) := by
  rw [Real.sin_two_mul, Real.sin_two_mul, h.sin, h.cos]
  ring

theorem cos_double (h : Opposite x y) : Real.cos (2 * y) = Real.cos (2 * x) := by
  rw [Real.cos_two_mul, Real.cos_two_mul, h.cos, neg_sq]

theorem signed_sub {x' y' : ℝ} (h : Opposite x y) (h' : Opposite x' y') :
    signed (y - y') = signed (x - x') := by
  obtain ⟨k, rfl⟩ := h
  obtain ⟨k', rfl⟩ := h'
  rw [← signed_add_turns (x - x') (k - k')]
  congr 1
  push_cast
  ring

end Opposite

end TelescopePointing.Angle
