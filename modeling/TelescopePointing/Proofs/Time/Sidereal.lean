import Mathlib.Analysis.Real.Pi.Bounds
import TelescopePointing.Proofs.Angle
import TelescopePointing.Proofs.Scalar.Real
import TelescopePointing.Proofs.Time.Resolved
import TelescopePointing.Time.Sidereal

namespace TelescopePointing

namespace Sidereal

open Scalar

/-- The first way to reckon, in turns, when a part of a day has passed since midnight. -/
noncomputable def turnsSinceMidnight (midnight part : ℝ) : ℝ :=
  let t := (midnight - 51544.5) / 36525
  (((-6.2e-6 * t + 9.3104e-2) * t + 8640184.812866) * t + 24110.54841) / 86400 +
    part * 1.00273790934

/-- The second way, in turns. -/
noncomputable def continuousTurns (days : ℝ) : ℝ :=
  let d := days - 51544.5
  let t := d / 36525
  (280.46061837 + 360.98564736629 * d + 0.000387933 * t * t - t * t * t / 38710000) / 360

noncomputable def drift (midnight part : ℝ) : ℝ :=
  turnsSinceMidnight midnight part - continuousTurns (midnight + part) - (51544 - midnight)

/-- Within ten centuries and a day the two series stay within half a millisecond of one another. -/
theorem abs_drift_lt {midnight part : ℝ} (hm : |midnight - 51544.5| ≤ 365252)
    (hp : |part| ≤ 1) : |drift midnight part| < 5e-9 := by
  obtain ⟨t, ht⟩ : ∃ t, t = (midnight - 51544.5) / 36525 := ⟨_, rfl⟩
  obtain ⟨s, hs⟩ : ∃ s, s = part / 36525 := ⟨_, rfl⟩
  have hmidnight : midnight = 36525 * t + 51544.5 := by rw [ht]; ring
  have hpart : part = 36525 * s := by rw [hs]; ring
  have hmul : ∀ {x y a b : ℝ}, |x| ≤ a → |y| ≤ b → |x * y| ≤ a * b := by
    intro x y a b hx hy
    rw [abs_mul]
    exact mul_le_mul hx hy (abs_nonneg y) ((abs_nonneg x).trans hx)
  have h1 : |t| ≤ 10.001 := by
    rw [ht, abs_div, abs_of_pos (by norm_num : (0 : ℝ) < 36525), div_le_iff₀ (by norm_num)]
    linarith
  have k1 : |s| ≤ 0.00003 := by
    rw [hs, abs_div, abs_of_pos (by norm_num : (0 : ℝ) < 36525), div_le_iff₀ (by norm_num)]
    linarith
  have h2 := abs_le.mp (hmul h1 h1)
  have h3 := abs_le.mp (hmul (hmul h1 h1) h1)
  have m11 := abs_le.mp (hmul h1 k1)
  have m21 := abs_le.mp (hmul (hmul h1 h1) k1)
  have m12 := abs_le.mp (hmul h1 (hmul k1 k1))
  have k2 := abs_le.mp (hmul k1 k1)
  have k3 := abs_le.mp (hmul (hmul k1 k1) k1)
  rw [abs_le] at h1 k1
  rw [drift, turnsSinceMidnight, continuousTurns, hmidnight, hpart, abs_lt]
  constructor
  · ring_nf at *
    linarith
  · ring_nf at *
    linarith

theorem exists_sinceMidnight_eq (days : ℝ) : ∃ k : ℤ, sinceMidnight days =
    2 * Real.pi * (turnsSinceMidnight ⌊days⌋ (Scalar.fract days) + k) := by
  obtain ⟨k, hk⟩ := Angle.exists_modulo_eq
    (2 * Real.pi * turnsSinceMidnight ⌊days⌋ (Scalar.fract days))
  obtain ⟨t, ht⟩ : ∃ t : ℝ, t = ResolvedTime.centuriesFrom2000 (⌊days⌋ : ℝ) := ⟨_, rfl⟩
  have hturns : (((-6.2e-6 * t + 9.3104e-2) * t + 8640184.812866) * t + 24110.54841) *
      Angle.fullTurn / 86400.0 + Scalar.fract days * Angle.fullTurn * 1.00273790934 =
        2 * Real.pi * turnsSinceMidnight ⌊days⌋ (Scalar.fract days) := by
    rw [turnsSinceMidnight, ← ResolvedTime.centuriesFrom2000_eq, ← ht, Angle.fullTurn_eq]
    norm_num
    ring
  refine ⟨k, ?_⟩
  rw [mul_add, mul_comm _ (k : ℝ), ← hk, ← hturns, ht]
  rfl

theorem exists_continuous_eq (days : ℝ) : ∃ k : ℤ, continuous (days + 2400000.5) =
    2 * Real.pi * (continuousTurns days + k) := by
  obtain ⟨k, hk⟩ := Angle.exists_modulo_eq (2 * Real.pi * continuousTurns days)
  obtain ⟨d, hd⟩ : ∃ d : ℝ, d = days + 2400000.5 - 2451545.0 := ⟨_, rfl⟩
  have hturns : (280.46061837 + 360.98564736629 * d + 0.000387933 * (d / 36525.0) * (d / 36525.0) -
      d / 36525.0 * (d / 36525.0) * (d / 36525.0) / 38710000.0) * (Real.pi / 180.0) =
        2 * Real.pi * continuousTurns days := by
    have hdays : days - 51544.5 = d := by
      rw [hd]
      norm_num
      ring
    rw [continuousTurns, hdays]
    norm_num
    ring
  refine ⟨k, ?_⟩
  rw [mul_add, mul_comm _ (k : ℝ), ← hk, ← hturns, hd]
  rfl

/-- How far the first way to reckon is ahead of the second, by less than half a turn. -/
noncomputable def lead (days : ℝ) : ℝ :=
  Angle.signed (sinceMidnight days - continuous (days + 2400000.5))

/-- Whole turns do not count. The part of the day that has passed is what the first way takes for
it. -/
theorem lead_eq_of_mem {days : ℝ} {n : ℤ} {x : ℝ}
    (hx : turnsSinceMidnight ⌊days⌋ (Scalar.fract days) - continuousTurns days = x + n)
    (hmem : |x| < 1 / 2) : lead days = 2 * Real.pi * x := by
  obtain ⟨j, hj⟩ := exists_sinceMidnight_eq days
  obtain ⟨k, hk⟩ := exists_continuous_eq days
  have hdifference : sinceMidnight days - continuous (days + 2400000.5) =
      2 * Real.pi * x + (n + j - k : ℤ) * (2 * Real.pi) := by
    rw [hj, hk]
    push_cast
    linear_combination 2 * Real.pi * hx
  have hpi := Real.pi_pos
  rw [abs_lt] at hmem
  rw [lead, hdifference, Angle.signed_add_turns, Angle.signed_of_mem]
  constructor <;> nlinarith

theorem abs_drift_floor_lt {days : ℝ} (h : |days - 51544.5| ≤ 365251) :
    |drift ⌊days⌋ (days - ⌊days⌋)| < 5e-9 := by
  have hfloor := Int.floor_le days
  have hlt := Int.lt_floor_add_one days
  rw [abs_le] at h
  apply abs_drift_lt
  · rw [abs_le]
    constructor <;> linarith [h.1, h.2]
  · rw [abs_le]
    constructor <;> linarith

/-- When the passed part of the day is counted from its midnight, only the drift remains. -/
theorem lead_of_fract_eq {days : ℝ} (h : |days - 51544.5| ≤ 365251)
    (hfract : Scalar.fract days = days - ⌊days⌋) :
    lead days = 2 * Real.pi * drift ⌊days⌋ (days - ⌊days⌋) := by
  have hdrift := abs_drift_floor_lt h
  apply lead_eq_of_mem (n := 51544 - ⌊days⌋)
  · rw [hfract, drift, add_sub_cancel]
    push_cast
    ring
  · linarith

/-- When it is counted back from the next midnight, the sidereal excess of one day is lost too. -/
theorem lead_of_fract_eq_sub_one {days : ℝ} (h : |days - 51544.5| ≤ 365251)
    (hfract : Scalar.fract days = days - ⌊days⌋ - 1) :
    lead days = 2 * Real.pi * (drift ⌊days⌋ (days - ⌊days⌋) - 0.00273790934) := by
  have hdrift := abs_lt.mp (abs_drift_floor_lt h)
  apply lead_eq_of_mem (n := 51543 - ⌊days⌋)
  · rw [hfract, drift, add_sub_cancel]
    simp only [turnsSinceMidnight]
    push_cast
    ring
  · rw [abs_lt]
    constructor <;> linarith [hdrift.1, hdrift.2]

theorem fract_eq_of_counts {days : ℝ} (h : 0 ≤ days ∨ ∃ n : ℤ, days = n) :
    Scalar.fract days = days - ⌊days⌋ := by
  rcases le_or_gt 0 days with hpos | hneg
  · exact real_fract_of_nonneg hpos
  · obtain ⟨n, rfl⟩ := h.resolve_left (not_le.mpr hneg)
    rw [real_fract_of_neg hneg, Int.ceil_intCast, Int.floor_intCast]

theorem fract_eq_of_not_counts {days : ℝ} (h : ¬ (0 ≤ days ∨ ∃ n : ℤ, days = n)) :
    Scalar.fract days = days - ⌊days⌋ - 1 := by
  obtain ⟨hneg, hwhole⟩ := not_or.mp h
  have hceil : ⌈days⌉ = ⌊days⌋ + 1 := by
    refine Int.ceil_eq_floor_add_one_iff_notMem days |>.mpr ?_
    rintro ⟨n, hn⟩
    exact hwhole ⟨n, hn.symm⟩
  rw [real_fract_of_neg (not_le.mp hneg), hceil]
  push_cast
  ring

theorem abs_two_pi_mul_lt {x : ℝ} (h : |x| < 5e-9) : |2 * Real.pi * x| < 1e-7 := by
  have hpi := Real.pi_lt_d2
  rw [abs_mul, abs_of_pos Real.two_pi_pos]
  nlinarith [abs_nonneg x]

theorem abs_lead_lt {days : ℝ} (h : |days - 51544.5| ≤ 365251)
    (hcounts : 0 ≤ days ∨ ∃ n : ℤ, days = n) : |lead days| < 1e-7 := by
  rw [lead_of_fract_eq h (fract_eq_of_counts hcounts)]
  exact abs_two_pi_mul_lt (abs_drift_floor_lt h)

/-- Before the count of days begins, the first way loses almost four minutes, except at midnight. -/
theorem abs_lead_add_lt {days : ℝ} (h : |days - 51544.5| ≤ 365251)
    (hcounts : ¬ (0 ≤ days ∨ ∃ n : ℤ, days = n)) :
    |lead days + 2 * Real.pi * 0.00273790934| < 1e-7 := by
  have hlead : lead days + 2 * Real.pi * 0.00273790934 =
      2 * Real.pi * drift ⌊days⌋ (days - ⌊days⌋) := by
    rw [lead_of_fract_eq_sub_one h (fract_eq_of_not_counts hcounts)]
    ring
  rw [hlead]
  exact abs_two_pi_mul_lt (abs_drift_floor_lt h)

theorem not_abs_lead_lt {days : ℝ} (h : |days - 51544.5| ≤ 365251)
    (hcounts : ¬ (0 ≤ days ∨ ∃ n : ℤ, days = n)) : ¬ |lead days| < 1e-7 := by
  have hbehind := abs_lt.mp (abs_lead_add_lt h hcounts)
  have hpi := Real.pi_gt_d2
  rw [abs_lt]
  rintro ⟨hlow, -⟩
  linarith [hbehind.2]

variable [NumberText ℝ]

/-- The two ways to reckon sidereal time agree on days that a run admits, as long as the count of
days is not negative, and before that at midnight only. At any other time the first way is behind by
the sidereal excess of one day. -/
theorem lead_lt_iff {days : ℝ} (h : |ResolvedTime.centuriesFrom2000 days| ≤ ResolvedTime.reach ∨
      ∃ i t, ResolvedTime.resolve i = .ok t ∧ t.universalDays = days) :
    (|lead days| < 1e-7 ↔ 0 ≤ days ∨ ∃ n : ℤ, days = n) ∧
      (days < 0 → (∀ n : ℤ, days ≠ n) → |lead days + 2 * Real.pi * 0.00273790934| < 1e-7) := by
  have hreach : |days - 51544.5| ≤ 365251 := by
    rcases h with h | ⟨i, t, ht, rfl⟩
    · rw [ResolvedTime.centuriesFrom2000_eq, abs_div, abs_of_pos (by norm_num : (0 : ℝ) < 36525),
        div_le_iff₀ (by norm_num), ResolvedTime.reach] at h
      norm_num at h ⊢
      linarith
    · exact ResolvedTime.universalDays_near ht
  refine ⟨⟨fun hlead => ?_, abs_lead_lt hreach⟩, fun hneg hwhole => abs_lead_add_lt hreach ?_⟩
  · by_contra hcounts
    exact not_abs_lead_lt hreach hcounts hlead
  · exact not_or.mpr ⟨not_le.mpr hneg, not_exists.mpr hwhole⟩

omit [NumberText ℝ]

def lastNoon : Instant := ⟨-(15020 * 86400 + 43200) * nanosecondsPerSecond, .utc⟩

theorem universalDays_lastNoon : (ResolvedTime.ofInstant lastNoon).universalDays = (-1 / 2 : ℝ) := by
  have hclock : Instant.bounded (lastNoon.universalClock + 15020 * nanosecondsPerDay) =
      -43200000000000 := by
    decide
  rw [ResolvedTime.ofInstant, Instant.modifiedDays_eq, hclock]
  norm_num

theorem resolve_lastNoon : letI := roundedText
    ResolvedTime.resolve lastNoon = .ok (ResolvedTime.ofInstant (α := ℝ) lastNoon) := by
  let := roundedText
  exact ResolvedTime.resolve_ofInstant (by decide) (by decide)

theorem not_counts_lastNoon : ¬ ((0 : ℝ) ≤ -1 / 2 ∨ ∃ n : ℤ, (-1 / 2 : ℝ) = n) := by
  rintro (h | ⟨n, hn⟩)
  · norm_num at h
  · have hdouble : (-1 : ℤ) = 2 * n := by
      exact_mod_cast (by linarith : (-1 : ℝ) = 2 * n)
    omega

theorem lead_lt_iff_lastNoon : letI := roundedText
    ResolvedTime.resolve lastNoon = .ok (ResolvedTime.ofInstant (α := ℝ) lastNoon) ∧
      |lead (-1 / 2) + 2 * Real.pi * 0.00273790934| < 1e-7 := by
  let := roundedText
  obtain ⟨hneg, hwhole⟩ := not_or.mp not_counts_lastNoon
  exact ⟨resolve_lastNoon, (lead_lt_iff (.inr ⟨lastNoon, _, resolve_lastNoon,
    universalDays_lastNoon⟩)).2 (not_le.mp hneg) fun n hn => hwhole ⟨n, hn⟩⟩

theorem lead_lastNoon : letI := roundedText
    ∃ t, ResolvedTime.resolve lastNoon = .ok t ∧ t.universalDays = (-1 / 2 : ℝ) ∧
      ¬ |lead t.universalDays| < 1e-7 := by
  let := roundedText
  refine ⟨_, resolve_lastNoon, universalDays_lastNoon, ?_⟩
  rw [universalDays_lastNoon]
  apply not_abs_lead_lt _ not_counts_lastNoon
  rw [abs_le]
  norm_num

end Sidereal

end TelescopePointing
