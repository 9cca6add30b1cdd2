import TelescopePointing.Proofs.Engine.RoundTrip

namespace TelescopePointing

open Scalar

namespace Refraction

theorem Coefficients.ofAir_of_pressure_eq_zero {air : Atmosphere ℝ} (h : air.pressure = 0)
    (wavelength : ℝ) : ofAir air wavelength = ⟨0, 0⟩ := by
  have hclamp : clamp 0.0 10000.0 air.pressure = 0 := by
    rw [h, clamp_of_mem ⟨by norm_num, by norm_num⟩]
  have hvapour : ∀ temperature humidity : ℝ, vapourPressure 0 temperature humidity = 0 := by
    intro temperature humidity
    rw [vapourPressure, if_neg (by simp), real_zero]
  simp only [ofAir, hclamp, hvapour, mul_zero, sub_zero, zero_div, zero_mul, neg_zero]

theorem Coefficients.correction_zero (altitude : ℝ) : correction ⟨0, 0⟩ altitude = 0 := by
  simp [correction]

theorem tangentModel_of_pressure_eq_zero {air : Atmosphere ℝ} (h : air.pressure = 0)
    (altitude : ℝ) : tangentModel altitude air = 0 := by
  rw [tangentModel, Coefficients.ofAir_of_pressure_eq_zero h, Coefficients.correction_zero]

theorem cotangentModel_zero (altitude temperature : ℝ) :
    cotangentModel altitude 0 temperature = 0 := by
  simp only [cotangentModel, zero_div, zero_mul, mul_zero, Angle.ofDegrees, real_zero, ite_self]

end Refraction

theorem Strategy.refraction_of_pressure_eq_zero (s : Strategy) {air : Atmosphere ℝ}
    (h : air.pressure = 0) (altitude : ℝ) : s.refraction altitude air = 0 := by
  cases s with
  | rigorous => exact Refraction.tangentModel_of_pressure_eq_zero h altitude
  | legacy =>
    simp only [refraction, h]
    exact Refraction.cotangentModel_zero altitude air.temperature

namespace Engine

section Corrected

variable {α : Type} [Scalar α] [NumberText α] {star : SkyPosition α} {instant : Instant}
  {site : Site α} {time : ResolvedTime α} (e : Engine)

/-- The place on the horizon to which nothing but the apparent place of a star leads. -/
def SeesUnrefracted (star : SkyPosition α) (instant : Instant) (site : Site α)
    (h : SkyPosition α) : Prop :=
  ∃ place, e.apparentPlace star instant = .ok place ∧
    ∀ air, e.toHorizon place instant site air false = .ok h

theorem toHorizon_eq_error_iff (air : Atmosphere α) (correct : Bool) (err : PointingError) :
    e.toHorizon star instant site air correct = .error err ↔
      site.check = .error err ∨
        site.check = .ok () ∧
          (ResolvedTime.resolve instant : Except _ (ResolvedTime α)) = .error err := by
  unfold toHorizon standing
  cases site.check with
  | error first =>
    change Except.error first = _ ↔ _
    simp
  | ok _ =>
    cases (ResolvedTime.resolve instant : Except _ (ResolvedTime α)) with
    | error second =>
      change Except.error second = _ ↔ _
      simp
    | ok time =>
      change Except.ok _ = _ ↔ _
      simp

/-- A star has a place on the horizon only at a sound site and at a time that can be resolved. -/
theorem sound_of_toHorizon {air : Atmosphere α} {correct : Bool} {p : SkyPosition α}
    (hp : e.toHorizon star instant site air correct = .ok p) :
    site.check = .ok () ∧
      ∃ time, (ResolvedTime.resolve instant : Except _ (ResolvedTime α)) = .ok time := by
  have hsucceeds : ∀ err, e.toHorizon star instant site air correct ≠ .error err := by
    rw [hp]
    exact nofun
  simp only [ne_eq, toHorizon_eq_error_iff, not_or, not_and] at hsucceeds
  cases hsite : site.check with
  | error err => exact absurd hsite (hsucceeds err).1
  | ok _ =>
    refine ⟨rfl, ?_⟩
    cases htime : (ResolvedTime.resolve instant : Except _ (ResolvedTime α)) with
    | error err => exact absurd htime ((hsucceeds err).2 hsite)
    | ok time => exact ⟨time, rfl⟩

/-- Where the engine places an equatorial position of date, without refraction. -/
def unrefracted (place : SkyPosition α) (time : ResolvedTime α) (site : Site α) : α × α :=
  Horizon.ofHourAngle (e.strategy.siderealTime time + site.longitudeAngle - place.longitude)
    place.latitude site.latitudeAngle

omit [NumberText α] in
theorem latitude_unrefracted (hasin : ∀ x : α, Angle.latitude (Scalar.asin x) = Scalar.asin x)
    (place : SkyPosition α) (time : ResolvedTime α) (site : Site α) :
    Angle.latitude (e.unrefracted place time site).2 = (e.unrefracted place time site).2 :=
  hasin _

variable (hsite : site.check = .ok ()) (htime : ResolvedTime.resolve instant = .ok time)
include hsite htime

theorem toHorizon_false (place : SkyPosition α) (air : Atmosphere α) :
    e.toHorizon place instant site air false =
      let a := e.unrefracted place time site
      .ok (.make (e.convention.ofNorthEast a.1) a.2 (.horizon e.convention) instant) := by
  simp only [toHorizon, standing, hsite, htime]
  rfl

theorem toHorizon_true (star : SkyPosition α) (air : Atmosphere α) :
    e.toHorizon star instant site air true =
      let a := e.unrefracted (e.strategy.apparentPlace star time) time site
      .ok (.make (e.convention.ofNorthEast a.1) (a.2 + e.strategy.refraction a.2 air)
        (.horizon e.convention) instant) := by
  simp only [toHorizon, standing, hsite, htime]
  rfl

theorem seesUnrefracted_of_resolve :
    let a := e.unrefracted (e.strategy.apparentPlace star time) time site
    e.SeesUnrefracted star instant site
      (.make (e.convention.ofNorthEast a.1) a.2 (.horizon e.convention) instant) := by
  have hplace : e.apparentPlace star instant = .ok (e.strategy.apparentPlace star time) := by
    rw [apparentPlace, htime]
    rfl
  exact ⟨_, hplace, e.toHorizon_false hsite htime _⟩

omit hsite htime

theorem exists_seesUnrefracted
    (hasin : ∀ x : α, Angle.latitude (Scalar.asin x) = Scalar.asin x) {air : Atmosphere α}
    {p : SkyPosition α} (hp : e.toHorizon star instant site air true = .ok p) :
    ∃ h, e.SeesUnrefracted star instant site h ∧ Angle.latitude h.latitude = h.latitude ∧
      p = { h with
        latitude := Angle.latitude (h.latitude + e.strategy.refraction h.latitude air) } := by
  obtain ⟨hsite, time, htime⟩ := e.sound_of_toHorizon hp
  have haltitude := e.latitude_unrefracted hasin (e.strategy.apparentPlace star time) time site
  rw [e.toHorizon_true hsite htime star air] at hp
  refine ⟨_, e.seesUnrefracted_of_resolve hsite htime, ?_⟩
  simp only [SkyPosition.make, haltitude, true_and]
  exact (Except.ok.inj hp).symm

end Corrected

section Exact

theorem latitude_asin (x : ℝ) : Angle.latitude (Scalar.asin x) = Scalar.asin x :=
  Angle.latitude_of_mem (Real.arcsin_mem_Icc x)

/-- Corrections put a star where its apparent place is, raised by refraction. They fail with the
site or, if that is sound, with the time. In air without pressure nothing is raised; at -273 degrees
the scale of the cotangent formula has no value. -/
theorem toHorizon_corrected {α : Type} [Scalar α] [NumberText α]
    (hasin : ∀ x : α, Angle.latitude (Scalar.asin x) = Scalar.asin x) (e : Engine)
    (star : SkyPosition α) (instant : Instant) (site : Site α) (air : Atmosphere α) :
    (∀ err, e.toHorizon star instant site air true = .error err ↔
      site.check = .error err ∨
        site.check = .ok () ∧
          (ResolvedTime.resolve instant : Except _ (ResolvedTime α)) = .error err) ∧
    (∀ p, e.toHorizon star instant site air true = .ok p →
      ∃ h, e.SeesUnrefracted star instant site h ∧
        p = { h with
          latitude := Angle.latitude (h.latitude + e.strategy.refraction h.latitude air) }) ∧
    ∀ [NumberText ℝ] (star : SkyPosition ℝ) (site : Site ℝ) (air : Atmosphere ℝ),
      air.pressure = 0 → air.temperature ≠ -273 →
        ∀ p, e.toHorizon star instant site air true = .ok p →
          e.SeesUnrefracted star instant site p := by
  refine ⟨e.toHorizon_eq_error_iff air true, ?_, ?_⟩
  · intro p hp
    obtain ⟨h, hsees, -, hraised⟩ := e.exists_seesUnrefracted hasin hp
    exact ⟨h, hsees, hraised⟩
  intro _ star site air hpressure _ p hp
  obtain ⟨h, hsees, hlatitude, rfl⟩ := e.exists_seesUnrefracted latitude_asin hp
  rw [e.strategy.refraction_of_pressure_eq_zero hpressure, add_zero, hlatitude]
  exact hsees

theorem toHorizon_corrected_airless : letI := roundedText
    let e : Engine := .make .legacy none .standard
    let star : SkyPosition ℝ := .catalog 1 (-1) ⟨0, .utc⟩
    let site : Site ℝ := ⟨0, 30, 0⟩
    let air : Atmosphere ℝ := ⟨-50, 0, 1⟩
    (∀ x : ℝ, Angle.latitude (Scalar.asin x) = Scalar.asin x) ∧ air.pressure = 0 ∧
      air.temperature ≠ -273 ∧
      ∃ p, e.toHorizon star ⟨0, .utc⟩ site air true = .ok p ∧
        e.SeesUnrefracted star ⟨0, .utc⟩ site p := by
  let := roundedText
  intro e star site air
  have hsite : site.check = .ok () := site.check_eq_ok_iff.mpr (by norm_num [site])
  have htime : ResolvedTime.resolve ⟨0, .utc⟩ = .ok (.ofInstant (α := ℝ) ⟨0, .utc⟩) :=
    ResolvedTime.resolve_ofInstant (by decide) (by decide)
  have htemperature : air.temperature ≠ -273 := by norm_num [air]
  have hplaced := e.toHorizon_true hsite htime star air
  obtain ⟨-, -, hairless⟩ := toHorizon_corrected latitude_asin e star ⟨0, .utc⟩ site air
  exact ⟨latitude_asin, rfl, htemperature, _, hplaced,
    hairless star site air rfl htemperature _ hplaced⟩

end Exact

end Engine

end TelescopePointing
