import TelescopePointing.Proofs.Scalar.Real
import TelescopePointing.Time.Resolved

namespace TelescopePointing

theorem LeapSecond.count_bounds (reading : Int) :
    0 ≤ count reading * nanosecondsPerSecond ∧
      count reading * nanosecondsPerSecond ≤ 37000000000 := by
  have hlength : days.length = 28 := rfl
  have hpassed : days.countP (fun d => d * nanosecondsPerDay ≤ reading + resolution) ≤ 28 :=
    hlength ▸ List.countP_le_length
  unfold count nanosecondsPerSecond
  dsimp only
  split <;> omega

namespace Instant

theorem bounded_bounded (n : Int) : bounded (bounded n) = bounded n := by
  have hpos : 0 ≤ longest := by decide
  unfold bounded
  omega

/-- Counts do not get farther from one another by staying within bounds. -/
theorem bounded_near {m n k : Int} (h : m - k ≤ n ∧ n ≤ m + k) :
    bounded m - k ≤ bounded n ∧ bounded n ≤ bounded m + k := by
  unfold bounded
  omega

theorem bounded_near_self {m n k : Int} (hm : bounded m = m) (h : m - k ≤ n ∧ n ≤ m + k) :
    m - k ≤ bounded n ∧ bounded n ≤ m + k := by
  have hnear := bounded_near h
  rwa [hm] at hnear

theorem bounded_clock (t : Instant) : bounded t.clock = t.clock := bounded_bounded _

theorem bounded_atomicClock (t : Instant) : bounded t.atomicClock = t.atomicClock := by
  unfold atomicClock
  cases t.scale with
  | tai => exact t.bounded_clock
  | _ => exact bounded_bounded _

/-- The leap seconds and the offset of the terrestrial scale stay within these nanoseconds. -/
theorem atomicClock_near (t : Instant) :
    t.clock - 37000000000 ≤ t.atomicClock ∧ t.atomicClock ≤ t.clock + 37000000000 := by
  have hcount := LeapSecond.count_bounds t.clock
  have hsecond : nanosecondsPerSecond = 1000000000 := rfl
  unfold atomicClock
  cases t.scale with
  | tai =>
    dsimp only
    omega
  | _ =>
    apply bounded_near_self t.bounded_clock
    omega

theorem universalClock_near (t : Instant) :
    t.atomicClock - 37000000000 ≤ t.universalClock ∧
      t.universalClock ≤ t.atomicClock + 37000000000 := by
  have hcount := LeapSecond.count_bounds t.atomicClock
  have hatomic := t.atomicClock_near
  unfold universalClock
  cases t.scale with
  | utc =>
    dsimp only
    omega
  | _ =>
    apply bounded_near_self t.bounded_atomicClock
    omega

theorem terrestrialClock_near (t : Instant) :
    t.atomicClock - 37000000000 ≤ t.terrestrialClock ∧
      t.terrestrialClock ≤ t.atomicClock + 37000000000 := by
  have hatomic := t.atomicClock_near
  unfold terrestrialClock
  cases t.scale with
  | tt =>
    dsimp only
    omega
  | _ =>
    apply bounded_near_self t.bounded_atomicClock
    omega

/-- Days are the nanoseconds of a clock, counted from day 15020. -/
theorem modifiedDays_eq (clock : Int) : (modifiedDays clock : ℝ) =
    (bounded (clock + 15020 * nanosecondsPerDay) : ℝ) / 86400000000000 := by
  unfold modifiedDays
  generalize bounded (clock + 15020 * nanosecondsPerDay) = count
  obtain ⟨century, hcentury⟩ : ∃ c, c = count / 3155760000000000000 := ⟨_, rfl⟩
  obtain ⟨second, hsecond⟩ : ∃ s, s = count % 3155760000000000000 / 1000000000 := ⟨_, rfl⟩
  obtain ⟨rest, hrest⟩ : ∃ n, n = count % 3155760000000000000 % 1000000000 := ⟨_, rfl⟩
  have hcount : count = century * 3155760000000000000 + (second * 1000000000 + rest) := by omega
  have hreal : (count : ℝ) = century * 3155760000000000000 + (second * 1000000000 + rest) := by
    exact_mod_cast hcount
  have hperCentury : 36525 * nanosecondsPerDay = 3155760000000000000 := rfl
  dsimp only
  rw [hperCentury, nanosecondsPerSecond, ← hcentury, ← hsecond, ← hrest, hreal]
  change (if century = 0 then (second : ℝ) + rest * 1e-9
    else century * 3155760000.0 + second + rest * 1e-9) * (1.0 / 86400.0) = _
  by_cases hzero : century = 0
  · rw [if_pos hzero, hzero]
    norm_num
    ring
  · rw [if_neg hzero]
    norm_num
    ring

/-- The two clocks that are read at one moment never differ by as much as a day. -/
theorem days_near (t : Instant) :
    |(modifiedDays t.universalClock : ℝ) - modifiedDays t.terrestrialClock| ≤ 1 := by
  have huniversal := t.universalClock_near
  have hterrestrial := t.terrestrialClock_near
  have hshift := bounded_near (m := t.terrestrialClock + 15020 * nanosecondsPerDay)
    (n := t.universalClock + 15020 * nanosecondsPerDay) (k := 86400000000000) (by omega)
  have hnear : |bounded (t.universalClock + 15020 * nanosecondsPerDay) -
      bounded (t.terrestrialClock + 15020 * nanosecondsPerDay)| ≤ 86400000000000 := by
    rw [abs_le]
    omega
  rw [modifiedDays_eq, modifiedDays_eq, ← sub_div, abs_div,
    abs_of_pos (by positivity : (0 : ℝ) < 86400000000000), div_le_one (by positivity)]
  exact_mod_cast hnear

end Instant

namespace ResolvedTime

theorem centuriesFrom2000_eq (days : ℝ) : centuriesFrom2000 days = (days - 51544.5) / 36525 := by
  norm_num [centuriesFrom2000, epoch2000]

theorem resolve_eq_ok_iff [NumberText ℝ] {i : Instant} {t : ResolvedTime ℝ} :
    resolve i = .ok t ↔ t = ofInstant i ∧ |t.centuries| ≤ 10 := by
  have hreach : (reach : ℝ) = 10 := by norm_num [reach]
  simp only [resolve, Scalar.real_isFinite, Bool.not_true, Bool.or_self, Bool.false_eq_true,
    if_false, hreach, Scalar.real_abs]
  by_cases hfar : 10 < |(ofInstant i : ResolvedTime ℝ).centuries|
  · rw [if_pos hfar]
    refine ⟨nofun, ?_⟩
    rintro ⟨rfl, hnear⟩
    exact absurd hfar (not_lt.mpr hnear)
  · rw [if_neg hfar, Except.ok.injEq, eq_comm, and_iff_left_of_imp]
    rintro rfl
    exact not_lt.mp hfar

/-- A moment is within reach when its nanoseconds are within ten centuries of those of J2000. -/
theorem resolve_ofInstant [NumberText ℝ] {i : Instant}
    (hlow : 4453444800000000000 - 31557600000000000000 ≤
      Instant.bounded (i.terrestrialClock + 15020 * nanosecondsPerDay))
    (hhigh : Instant.bounded (i.terrestrialClock + 15020 * nanosecondsPerDay) ≤
      4453444800000000000 + 31557600000000000000) :
    resolve i = .ok (ofInstant i : ResolvedTime ℝ) := by
  refine resolve_eq_ok_iff.mpr ⟨rfl, ?_⟩
  have hdays : (ofInstant i : ResolvedTime ℝ).terrestrialDays =
      (Instant.bounded (i.terrestrialClock + 15020 * nanosecondsPerDay) : ℝ) / 86400000000000 :=
    Instant.modifiedDays_eq _
  have hlow' := Int.cast_le (R := ℝ) |>.mpr hlow
  have hhigh' := Int.cast_le (R := ℝ) |>.mpr hhigh
  push_cast at hlow' hhigh'
  rw [centuries, centuriesFrom2000_eq, hdays, abs_le, le_div_iff₀ (by norm_num),
    div_le_iff₀ (by norm_num)]
  constructor <;> linarith

/-- Reach is taken on the terrestrial clock, and universal time is within a day of it. -/
theorem universalDays_near [NumberText ℝ] {i : Instant} {t : ResolvedTime ℝ}
    (h : resolve i = .ok t) : |t.universalDays - 51544.5| ≤ 365251 := by
  obtain ⟨rfl, hreach⟩ := resolve_eq_ok_iff.mp h
  have hnear := abs_le.mp i.days_near
  rw [centuries, centuriesFrom2000_eq, abs_div, abs_of_pos (by positivity : (0 : ℝ) < 36525),
    div_le_iff₀ (by positivity), abs_le] at hreach
  simp only [ofInstant] at hreach ⊢
  rw [abs_le]
  constructor <;> linarith [hnear.1, hnear.2, hreach.1, hreach.2]

end ResolvedTime

end TelescopePointing
