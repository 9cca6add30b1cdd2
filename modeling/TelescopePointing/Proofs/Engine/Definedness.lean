import TelescopePointing.Proofs.Earth.Partial
import TelescopePointing.Proofs.Engine.ApparentPlace

namespace TelescopePointing

open PartialReal Scalar

theorem Instant.of_modifiedDays (clock : Int) :
    (modifiedDays clock : PartialReal) = of (modifiedDays clock) := by
  simp (disch := norm_num) only [modifiedDays, of_ofInt, of_scientific, of_add, of_mul, of_div]
  rw [← apply_ite of, of_mul]

namespace ResolvedTime

def lift (t : ResolvedTime ℝ) : ResolvedTime PartialReal :=
  ⟨t.instant, of t.universalDays, of t.terrestrialDays⟩

theorem resolve_lift [NumberText ℝ] (i : Instant) :
    (resolve i : Except _ (ResolvedTime PartialReal)) = (resolve i).map lift := by
  have hclocks : (ofInstant i : ResolvedTime PartialReal) = (ofInstant i).lift := by
    simp only [ofInstant, lift, Instant.of_modifiedDays]
  have hreach : (reach : PartialReal) = of reach := rfl
  have hcenturies : (ofInstant i : ResolvedTime ℝ).lift.centuries =
      of (ofInstant i : ResolvedTime ℝ).centuries := Earth.centuries_of _
  have hfinite : ∀ t : ResolvedTime ℝ, Scalar.isFinite t.lift.universalDays = true ∧
      Scalar.isFinite t.lift.terrestrialDays = true := fun _ => ⟨rfl, rfl⟩
  simp only [resolve, hclocks, hreach, hcenturies, hfinite, of_abs, of_lt, real_isFinite,
    Bool.not_true, Bool.or_self, Bool.false_eq_true, if_false]
  split <;> rfl

end ResolvedTime

/-- The operations on the way to an apparent place that do not have a value everywhere: the orbit is
an ellipse, the equator is inclined to the ecliptic by less than a right angle, the Earth is slower
than light and does not cancel the direction of the star, and a declination is only divided by where
the star is not at a pole. -/
structure InDomain (star : SkyPosition ℝ) (days : ℝ) : Prop where
  orbit : (Earth.sun days).eccentricity ^ 2 < 1
  obliquity : Real.cos (Earth.obliquity days) ≠ 0
  speed : (Earth.velocity days).length < 1
  direction : star.direction.length ≠ 0
  displaced : (star.direction.normalize.add (Earth.velocity days)).length ≠ 0
  pole : |Real.cos star.latitude| < 1e-9 →
    (Aberration.corrections star.longitude star.latitude days).1 = 0
  quotient : 1e-9 ≤ |Real.cos star.latitude| → Real.cos star.latitude ≠ 0 ∧
    Real.cos star.latitude * (Aberration.corrections star.longitude star.latitude days).1 =
      Aberration.constant * (Earth.course days).dot (.east star.longitude)

theorem inDomain_of_reach {days : ℝ} (hreach : |Earth.centuries days| ≤ 10)
    (star : SkyPosition ℝ) : InDomain star days where
  orbit := by
    have h := Earth.abs_eccentricity_le hreach
    rw [sq_lt_one_iff_abs_lt_one]
    linarith
  obliquity := (Earth.cos_obliquity_pos hreach).ne'
  speed := by
    rw [Direction.length_eq, Real.sqrt_lt' one_pos, one_pow]
    exact Earth.dot_velocity_lt_one hreach
  direction := star.length_direction ▸ one_ne_zero
  displaced := Aberration.displaces_of_reach hreach star
  pole h := Aberration.corrections_near_pole h star.longitude days
  quotient h := ⟨Aberration.cos_ne_zero_of_pole h, Aberration.corrections_east h⟩

theorem Strategy.apparentPlace_lift (s : Strategy) {star : SkyPosition ℝ} {time : ResolvedTime ℝ}
    (h : InDomain star time.terrestrialDays) :
    s.apparentPlace star.lift time.lift = (s.apparentPlace star time).lift := by
  cases s with
  | rigorous =>
    have horbit := h.orbit
    rw [pow_two] at horbit
    simp only [apparentPlace, ResolvedTime.lift, Earth.velocity_of horbit,
      Earth.nutationRotation_of, Earth.precession_of, SkyPosition.direction_lift,
      Aberration.displace_lift h.direction h.displaced, Rotation.compose_lift, Rotation.apply_lift,
      SkyPosition.ofDirection_lift]
  | legacy =>
    have hlongitude : star.lift.longitude = of star.longitude := rfl
    have hlatitude : star.lift.latitude = of star.latitude := rfl
    simp only [apparentPlace, ResolvedTime.lift, hlongitude, hlatitude,
      Aberration.corrections_of _ _ h.obliquity, of_add, SkyPosition.make_of, Earth.precession_of,
      SkyPosition.direction_lift, Rotation.apply_lift, SkyPosition.ofDirection_lift]
    rfl

/-- The apparent place of a star is defined. Worked out with account of domains it is what exact
arithmetic finds, or the same error, and at every moment that can be resolved nothing on the way
leaves its domain. -/
theorem Engine.apparentPlace_defined [NumberText ℝ] (e : Engine) (star : SkyPosition ℝ)
    (instant : Instant) :
    e.apparentPlace star.lift instant = (e.apparentPlace star instant).map SkyPosition.lift ∧
      ∀ time : ResolvedTime ℝ, ResolvedTime.resolve instant = .ok time →
        InDomain star time.terrestrialDays := by
  have hdomain : ∀ time : ResolvedTime ℝ, ResolvedTime.resolve instant = .ok time →
      InDomain star time.terrestrialDays := fun time htime =>
    inDomain_of_reach (Earth.abs_centuries_le htime) star
  refine ⟨?_, hdomain⟩
  rw [apparentPlace, apparentPlace, ResolvedTime.resolve_lift]
  cases htime : (ResolvedTime.resolve instant : Except _ (ResolvedTime ℝ)) with
  | error err => rfl
  | ok time => exact congrArg Except.ok (e.strategy.apparentPlace_lift (hdomain time htime))

theorem Engine.apparentPlace_defined_pole : letI := roundedText
    let e := Engine.make .legacy none .standard
    let instant : Instant := ⟨0, .utc⟩
    let time : ResolvedTime ℝ := .ofInstant instant
    let pole : SkyPosition ℝ := .catalog 0 (Real.pi / 2) instant
    ResolvedTime.resolve instant = .ok time ∧
      e.apparentPlace pole.lift instant =
        .ok (e.strategy.apparentPlace pole time).lift ∧
      InDomain pole time.terrestrialDays := by
  let := roundedText
  intro e instant time pole
  have htime : ResolvedTime.resolve instant = .ok time :=
    ResolvedTime.resolve_ofInstant (by decide) (by decide)
  obtain ⟨hplace, hdomain⟩ := e.apparentPlace_defined pole instant
  refine ⟨htime, ?_, hdomain time htime⟩
  rw [hplace, Engine.apparentPlace, htime]
  rfl

end TelescopePointing
