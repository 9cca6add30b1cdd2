import TelescopePointing.Proofs.Angle
import TelescopePointing.Proofs.Scalar.Real
import TelescopePointing.Proofs.Sky.Partial
import TelescopePointing.Config.Basic
import TelescopePointing.Engine.Strategy
import TelescopePointing.Observation.Batch

namespace TelescopePointing

open PartialReal Scalar

namespace Refraction

/-- The pressure of the vapour over a surface of water. -/
def saturation {α : Type} [Scalar α] (pressure temperature : α) : α :=
  Scalar.pow 10.0 ((0.7859 + 0.03477 * temperature) / (1.0 + 0.00412 * temperature))
    * (1.0 + pressure * (4.5e-6 + 6e-10 * temperature * temperature))

theorem vapourPressure_eq {α : Type} [Scalar α] (pressure temperature humidity : α) :
    vapourPressure pressure temperature humidity =
      if 0.0 < pressure then
        humidity * saturation pressure temperature /
          (1.0 - (1.0 - humidity) * saturation pressure temperature / pressure)
      else 0.0 := rfl

end Refraction

namespace Atmosphere

variable (air : Atmosphere ℝ)

def lift : Atmosphere PartialReal := ⟨of air.temperature, of air.pressure, of air.humidity⟩

/-- The air for which the coefficients are computed. -/
noncomputable def fitted : Atmosphere ℝ :=
  ⟨clamp (-150.0) 200.0 air.temperature, clamp 0.0 10000.0 air.pressure,
    clamp 0.0 1.0 air.humidity⟩

structure InRange : Prop where
  temperature : air.temperature ∈ Set.Icc (-150.0) 200.0
  pressure : air.pressure ∈ Set.Icc 0.0 10000.0
  humidity : air.humidity ∈ Set.Icc 0.0 1.0

theorem fitted_inRange : air.fitted.InRange where
  temperature := clamp_mem (by norm_num) air.temperature
  pressure := clamp_mem (by norm_num) air.pressure
  humidity := clamp_mem (by norm_num) air.humidity

/-- The pressure of the vapour that the air could still take up. -/
noncomputable def deficit : ℝ :=
  (1 - air.humidity) * Refraction.saturation air.pressure air.temperature

/-- Near its boiling point water fills the air with vapour: the pressure lies between the deficit
and the saturation. -/
structure Steams : Prop where
  pressure : 0 < air.pressure
  deficit : air.deficit ≤ air.pressure
  saturation : air.pressure ≤ Refraction.saturation air.pressure air.temperature

/-- The pressure is the deficit itself, and then nothing is left to divide by. -/
def Critical : Prop := 0 < air.pressure ∧ air.pressure = air.deficit

end Atmosphere

namespace Refraction

section Vapour

variable {air : Atmosphere ℝ}

/-- What the vapour is divided by: the part of the pressure that is left over by the deficit. -/
theorem vapour_divisor (hpressure : 0 < air.pressure) :
    1.0 - (1.0 - air.humidity) * saturation air.pressure air.temperature / air.pressure =
      (air.pressure - air.deficit) / air.pressure := by
  rw [real_one, ← Atmosphere.deficit, sub_div, div_self hpressure.ne']

variable (h : air.InRange)
include h

theorem saturation_divisor_pos : 0 < 1.0 + 0.00412 * air.temperature := by
  have hlow := h.temperature.1
  norm_num at hlow ⊢
  linarith

theorem saturation_of :
    saturation (of air.pressure) (of air.temperature) =
      of (saturation air.pressure air.temperature) := by
  have hten : (0 : ℝ) < 10.0 := by norm_num
  simp only [saturation, of_scientific, of_mul, of_add, of_div (saturation_divisor_pos h).ne',
    of_pow hten]

theorem saturation_pos : 0 < saturation air.pressure air.temperature := by
  have hpower : ∀ x : ℝ, 0 < Scalar.pow (10.0 : ℝ) x := fun x =>
    Real.rpow_pos_of_pos (by norm_num) x
  have hpressure := h.pressure.1
  norm_num at hpressure
  have hsquare : 0 ≤ 6e-10 * air.temperature * air.temperature := by
    rw [mul_assoc]
    exact mul_nonneg (by norm_num) (mul_self_nonneg _)
  have hfactor : 0 < 1.0 + air.pressure * (4.5e-6 + 6e-10 * air.temperature * air.temperature) :=
    add_pos_of_pos_of_nonneg (by norm_num) (mul_nonneg hpressure (add_nonneg (by norm_num) hsquare))
  exact mul_pos (hpower _) hfactor

theorem vapourPressure_of_critical (hcritical : air.Critical) :
    vapourPressure (of air.pressure) (of air.temperature) (of air.humidity) = undefined := by
  obtain ⟨hpressure, hdeficit⟩ := hcritical
  have hzero : (air.pressure - air.deficit) / air.pressure = 0 := by
    rw [← hdeficit, sub_self, zero_div]
  rw [vapourPressure_eq, saturation_of h]
  simp only [of_scientific, of_lt, of_sub, of_mul, of_div hpressure.ne', vapour_divisor hpressure,
    hzero, real_zero, if_pos hpressure]
  exact PartialReal.div_zero _

theorem vapourPressure_of (hcritical : ¬air.Critical) :
    vapourPressure (of air.pressure) (of air.temperature) (of air.humidity) =
      of (vapourPressure air.pressure air.temperature air.humidity) := by
  rw [vapourPressure_eq, vapourPressure_eq, saturation_of h]
  by_cases hpressure : 0.0 < air.pressure
  · have hpos : 0 < air.pressure := by rwa [real_zero] at hpressure
    have hdivisor : (air.pressure - air.deficit) / air.pressure ≠ 0 :=
      div_ne_zero (sub_ne_zero.mpr fun hdeficit => hcritical ⟨hpos, hdeficit⟩) hpos.ne'
    simp only [of_scientific, of_lt, of_sub, of_mul, of_div hpos.ne', vapour_divisor hpos,
      of_div hdivisor, if_pos hpressure]
  · simp only [of_scientific, of_lt, if_neg hpressure]

/-- Away from the boiling point there is never more vapour than air. -/
theorem vapourPressure_le (hsteams : ¬air.Steams) :
    vapourPressure air.pressure air.temperature air.humidity ≤ air.pressure := by
  have hhumid := h.humidity
  have hsaturation := saturation_pos h
  rw [vapourPressure_eq]
  split_ifs with hpressure
  · rw [real_zero] at hpressure
    rw [vapour_divisor hpressure]
    have hmoist : 0 ≤ air.humidity * saturation air.pressure air.temperature :=
      mul_nonneg (by linarith [hhumid.1, real_zero]) hsaturation.le
    rcases lt_or_ge air.pressure air.deficit with hlow | hhigh
    · have hdivisor : (air.pressure - air.deficit) / air.pressure < 0 :=
        div_neg_of_neg_of_pos (sub_neg.mpr hlow) hpressure
      exact (div_nonpos_of_nonneg_of_nonpos hmoist hdivisor.le).trans hpressure.le
    · have hthin : saturation air.pressure air.temperature < air.pressure :=
        lt_of_not_ge fun hboils => hsteams ⟨hpressure, hhigh, hboils⟩
      have hsplit : air.humidity * saturation air.pressure air.temperature + air.deficit =
          saturation air.pressure air.temperature := by
        rw [Atmosphere.deficit]
        ring
      have hdivisor : 0 < (air.pressure - air.deficit) / air.pressure :=
        div_pos (by linarith) hpressure
      rw [div_le_iff₀ hdivisor, mul_div_cancel₀ _ hpressure.ne']
      linarith
  · have hpressure := h.pressure.1
    rwa [real_zero] at hpressure ⊢

theorem steams_of_critical (hcritical : air.Critical) : air.Steams where
  pressure := hcritical.1
  deficit := hcritical.2.ge
  saturation := by
    have hhumid := h.humidity.1
    rw [real_zero] at hhumid
    exact hcritical.2.le.trans
      (mul_le_of_le_one_left (saturation_pos h).le (sub_le_self 1 hhumid))

end Vapour

namespace Coefficients

def lift (k : Coefficients ℝ) : Coefficients PartialReal := ⟨of k.a, of k.b⟩

theorem square_clamp_pos (wavelength : ℝ) :
    0 < clamp 0.1 100.0 wavelength * clamp 0.1 100.0 wavelength := by
  have hlow := (clamp_mem (show (0.1 : ℝ) ≤ 100.0 by norm_num) wavelength).1
  have hpos : 0 < clamp 0.1 100.0 wavelength := lt_of_lt_of_le (by norm_num) hlow
  exact mul_pos hpos hpos

theorem kelvin_pos (air : Atmosphere ℝ) : 0 < air.fitted.temperature + 273.15 := by
  have hlow := air.fitted_inRange.temperature.1
  norm_num at hlow ⊢
  linarith

theorem ofAir_of_critical {air : Atmosphere ℝ} (h : air.fitted.Critical) (wavelength : ℝ) :
    ofAir air.lift (of wavelength) = ⟨undefined, undefined⟩ := by
  have hvapour := vapourPressure_of_critical air.fitted_inRange h
  have hsquare := (square_clamp_pos wavelength).ne'
  simp only [Atmosphere.fitted] at hvapour
  simp only [ofAir, Atmosphere.lift, of_scientific, of_neg, of_clamp, hvapour, of_mul, of_add,
    of_div hsquare]
  rfl

theorem ofAir_of {air : Atmosphere ℝ} (h : ¬air.fitted.Critical) (wavelength : ℝ) :
    ofAir air.lift (of wavelength) = (ofAir air wavelength).lift := by
  have hvapour := vapourPressure_of air.fitted_inRange h
  have hkelvin := (kelvin_pos air).ne'
  have hsquare := (square_clamp_pos wavelength).ne'
  simp only [Atmosphere.fitted] at hvapour hkelvin
  simp (disch := norm_num) only [ofAir, Atmosphere.lift, lift, of_scientific, of_neg, of_clamp,
    hvapour, of_mul, of_add, of_sub, of_div hkelvin, of_div hsquare, of_div]

/-- The last divisor of the correction. -/
noncomputable def spread (k : Coefficients ℝ) (altitude : ℝ) : ℝ :=
  let z := Scalar.max (Scalar.sin altitude) 0.05
  let tangent := Scalar.max (Scalar.cos altitude) 1e-6 / z
  1.0 + (k.a + 3.0 * (k.b * tangent * tangent)) / (z * z)

theorem cap_pos (altitude : ℝ) : 0 < Scalar.max (Scalar.sin altitude) (0.05 : ℝ) := by
  rw [real_max]
  exact lt_sup_of_lt_right (by norm_num)

theorem correction_of (k : Coefficients ℝ) (altitude : ℝ) :
    k.lift.correction (of altitude) = guard (k.spread altitude ≠ 0) (k.correction altitude) := by
  have hz := (cap_pos altitude).ne'
  simp only [correction, lift, of_sin, of_cos, of_scientific, of_max, of_div hz, of_mul, of_add,
    of_div (mul_ne_zero hz hz)]
  rfl

theorem correction_undefined (altitude : ℝ) :
    correction ⟨undefined, undefined⟩ (of altitude) = undefined := rfl

/-- Without more vapour than air the refractivity is not negative. -/
theorem exists_gamma {air : Atmosphere ℝ} (h : ¬air.fitted.Steams) (wavelength : ℝ) :
    ∃ gamma beta : ℝ, 0 ≤ gamma ∧ beta ∈ Set.Icc 0 0.0022 ∧
      ofAir air wavelength = ⟨gamma * (1.0 - beta), -gamma * (beta - gamma / 2.0)⟩ := by
  have hkelvin := kelvin_pos air
  have hsquare := square_clamp_pos wavelength
  have hvapour := vapourPressure_le air.fitted_inRange h
  have hpressure := air.fitted_inRange.pressure.1
  rw [real_zero] at hpressure
  refine ⟨_, _, ?_, ?_, rfl⟩
  · have hterm : ∀ x : ℝ, 0 ≤ x →
        0 ≤ x / (clamp 0.1 100.0 wavelength * clamp 0.1 100.0 wavelength) := fun x hx =>
      div_nonneg hx hsquare.le
    have hdispersion := hterm _ (add_nonneg (by norm_num : (0 : ℝ) ≤ 4.39108e-7)
      (hterm 3.666e-9 (by norm_num)))
    refine div_nonneg (sub_nonneg.mpr ?_) hkelvin.le
    calc 11.2684e-6 * _
        ≤ 11.2684e-6 * air.fitted.pressure := mul_le_mul_of_nonneg_left hvapour (by norm_num)
      _ ≤ 77.53484e-6 * air.fitted.pressure :=
        mul_le_mul_of_nonneg_right (by norm_num) hpressure
      _ ≤ _ := mul_le_mul_of_nonneg_right (le_add_of_nonneg_right hdispersion) hpressure
  · have hhigh := air.fitted_inRange.temperature.2
    change 4.4474e-6 * (air.fitted.temperature + 273.15) ∈ _
    refine ⟨mul_nonneg (by norm_num) hkelvin.le, ?_⟩
    norm_num at hhigh ⊢
    linarith

theorem spread_lower {g beta c s : ℝ} (hg : 0 ≤ g) (hbeta : beta ≤ 0.0022) (hc : c ≤ 0.88)
    (hs : s ∈ Set.Icc 0 1) : 0 < 1 + g * (1 - beta) - 3 * c * g * s + 3 / 2 * s * g ^ 2 := by
  have hzenith : 1 / 2 ≤ 1 + g * (1 - beta) := by
    have hbelow : 0 ≤ 1 - beta := by linarith
    linarith [mul_nonneg hg hbelow]
  have hhorizon : 1 / 2 ≤ 1 + g * (1 - beta) - 3 * c * g + 3 / 2 * g ^ 2 := by
    have hslope : g * (beta + 3 * c - 1) ≤ g * 1.65 := mul_le_mul_of_nonneg_left (by linarith) hg
    nlinarith [sq_nonneg (g - 0.55)]
  have hmixed : 1 + g * (1 - beta) - 3 * c * g * s + 3 / 2 * s * g ^ 2 =
      (1 - s) * (1 + g * (1 - beta)) + s * (1 + g * (1 - beta) - 3 * c * g + 3 / 2 * g ^ 2) := by
    ring
  rw [hmixed]
  have hfirst := mul_le_mul_of_nonneg_left hzenith (sub_nonneg.mpr hs.2)
  have hsecond := mul_le_mul_of_nonneg_left hhorizon hs.1
  linarith

/-- The last divisor is linear in the square of the cosine, and positive both where the star is in
the zenith and where it is at the horizon. -/
theorem spread_pos {air : Atmosphere ℝ} (h : ¬air.fitted.Steams) (wavelength altitude : ℝ) :
    0 < (ofAir air wavelength).spread altitude := by
  obtain ⟨gamma, beta, hgamma, hbeta, hk⟩ := exists_gamma h wavelength
  have hz := cap_pos altitude
  have hcap : (0.05 : ℝ) ≤ Scalar.max (Scalar.sin altitude) 0.05 := by
    rw [real_max]
    exact le_sup_right
  have hr : Scalar.max (Scalar.cos altitude) (1e-6 : ℝ) ∈ Set.Icc 0 1 := by
    rw [real_max]
    exact ⟨le_sup_of_le_right (by norm_num), sup_le (Real.cos_le_one _) (by norm_num)⟩
  rw [hk, spread]
  generalize Scalar.max (Scalar.cos altitude) (1e-6 : ℝ) = r at hr ⊢
  generalize Scalar.max (Scalar.sin altitude) (0.05 : ℝ) = z at hz hcap ⊢
  have hwide : beta / (z * z) ≤ 0.88 := by
    rw [div_le_iff₀ (mul_pos hz hz)]
    nlinarith [hbeta.2]
  have hs : r * r ∈ Set.Icc 0 1 := ⟨mul_nonneg hr.1 hr.1, mul_le_one₀ hr.2 hr.1 hr.2⟩
  have hspread := spread_lower (div_nonneg hgamma (mul_pos hz hz).le) hbeta.2 hwide hs
  refine hspread.trans_eq ?_
  have hthree : (3.0 : ℝ) = 3 := by norm_num
  rw [real_one, real_two, hthree]
  field_simp
  ring

end Coefficients

theorem tangentModel_of_critical {air : Atmosphere ℝ} (h : air.fitted.Critical) (altitude : ℝ) :
    tangentModel (of altitude) air.lift = undefined := by
  rw [tangentModel, observingWavelength, of_scientific, Coefficients.ofAir_of_critical h,
    Coefficients.correction_undefined]

theorem tangentModel_of (air : Atmosphere ℝ) (altitude : ℝ) :
    tangentModel (of altitude) air.lift =
      guard (¬air.fitted.Critical ∧
          (Coefficients.ofAir air observingWavelength).spread altitude ≠ 0)
        (tangentModel altitude air) := by
  by_cases hcritical : air.fitted.Critical
  · rw [tangentModel_of_critical hcritical, guard_neg (fun hboth => hboth.1 hcritical)]
  · rw [tangentModel, observingWavelength, of_scientific, Coefficients.ofAir_of hcritical,
      Coefficients.correction_of]
    simp only [hcritical, not_false_eq_true, true_and]
    rfl

theorem tangentModel_of_not_steams {air : Atmosphere ℝ} (h : ¬air.fitted.Steams) (altitude : ℝ) :
    tangentModel (of altitude) air.lift = of (tangentModel altitude air) := by
  have hcritical : ¬air.fitted.Critical := mt (steams_of_critical air.fitted_inRange) h
  have hspread := Coefficients.spread_pos h observingWavelength altitude
  rw [tangentModel_of, guard_pos ⟨hcritical, hspread.ne'⟩]

section Cotangent

theorem sin_ofDegrees_pos {x : ℝ} (hlow : 0 < x) (hhigh : x < 180) :
    0 < Real.sin (Angle.ofDegrees x) := by
  have hdegree : (Angle.degree : ℝ) = Real.pi / 180 := by norm_num [Angle.degree]
  rw [Angle.ofDegrees, hdegree]
  refine Real.sin_pos_of_pos_of_lt_pi (by positivity) ?_
  nlinarith [Real.pi_pos]

theorem toDegrees_le {altitude : ℝ} (h : altitude ≤ Real.pi / 2) :
    Angle.toDegrees altitude ≤ 90 := by
  have hturn : (180.0 : ℝ) = 180 := by norm_num
  rw [Angle.toDegrees, real_pi, hturn, mul_div, div_le_iff₀ Real.pi_pos]
  linarith

noncomputable def bent (h : ℝ) : ℝ := Angle.ofDegrees (h + 7.31 / (h + 4.4))

/-- Down to two degrees below the horizon the cotangent is never taken of a multiple of the half
turn. -/
theorem sin_bent_pos {h : ℝ} (hlow : -2 ≤ h) (hhigh : h ≤ 90) : 0 < Real.sin (bent h) := by
  have hshifted : 0 < h + 4.4 := by
    norm_num
    linarith
  refine sin_ofDegrees_pos ?_ ?_
  · have hproduct : 0 < h * (h + 4.4) + 7.31 := by
      norm_num
      nlinarith [sq_nonneg (h + 2.2)]
    have hsum : h + 7.31 / (h + 4.4) = (h * (h + 4.4) + 7.31) / (h + 4.4) := by
      rw [add_div, mul_div_cancel_right₀ _ hshifted.ne']
    rw [hsum]
    exact div_pos hproduct hshifted
  · have hquotient : 7.31 / (h + 4.4) ≤ 4 := by
      rw [div_le_iff₀ hshifted]
      norm_num
      linarith
    linarith

theorem tan_bent_ne_zero {h : ℝ} (hlow : -2 ≤ h) (hhigh : h ≤ 90)
    (hcos : Real.cos (bent h) ≠ 0) : Scalar.tan (bent h) ≠ 0 := by
  change Real.tan (bent h) ≠ 0
  rw [Real.tan_eq_sin_div_cos]
  exact div_ne_zero (sin_bent_pos hlow hhigh).ne' hcos

/-- Two divisors can be zero: there is no tangent of a right angle, and no air at the absolute zero
of the formula. -/
theorem cotangentModel_of {altitude : ℝ} (haltitude : altitude ≤ Real.pi / 2)
    (pressure temperature : ℝ) :
    cotangentModel (of altitude) (of pressure) (of temperature) =
      guard (Angle.toDegrees altitude < -2 ∨
          temperature ≠ -273 ∧ Real.cos (bent (Angle.toDegrees altitude)) ≠ 0)
        (cotangentModel altitude pressure temperature) := by
  have htwo : (-2.0 : ℝ) = -2 := by norm_num
  simp only [cotangentModel, Angle.toDegrees_of, of_scientific, of_neg, of_lt, htwo]
  generalize hdegrees : Angle.toDegrees altitude = h
  have hhigh : h ≤ 90 := hdegrees ▸ toDegrees_le haltitude
  by_cases hlow : h < -2
  · rw [if_pos hlow, guard_pos (.inl hlow), if_pos hlow]
  have hshifted : h + 4.4 ≠ 0 := by
    norm_num
    linarith
  have hbent : Angle.ofDegrees (h + 7.31 / (h + 4.4)) = bent h := rfl
  simp only [hlow, if_false, false_or, of_add, of_div hshifted, Angle.ofDegrees_of, hbent]
  by_cases hcos : Real.cos (bent h) = 0
  · rw [tan_eq_undefined hcos, guard_neg (fun hboth => hboth.2 hcos)]
    rfl
  have htan := tan_bent_ne_zero (not_lt.mp hlow) hhigh hcos
  simp (disch := norm_num) only [of_tan hcos, of_div htan, of_mul, of_div, of_add, of_sub, of_sin,
    Angle.ofDegrees_of]
  by_cases hcold : temperature = -273
  · have hzero : (273.0 + temperature : ℝ) = 0 := by
      rw [hcold]
      norm_num
    rw [hzero, PartialReal.div_zero, guard_neg (fun hboth => hboth.1 hcold)]
    rfl
  · have hwarm : (273.0 + temperature : ℝ) ≠ 0 := by
      intro hzero
      norm_num at hzero
      exact hcold (by linarith)
    rw [of_div hwarm, guard_pos ⟨hcold, hcos⟩]
    simp (disch := norm_num) only [of_mul, of_div, Angle.ofDegrees_of]

end Cotangent

end Refraction

/-- Where refraction has a value. By rotations it has one in all air away from the boiling point of
water, and near it unless the air is critical or the last divisor is zero; by the almanac it has one
unless it is as cold as the absolute zero of the formula, or the cotangent is that of a right
angle. -/
theorem Strategy.refraction_domain {altitude : ℝ} (h : altitude ∈ Angle.latitudes)
    (air : Atmosphere ℝ) :
    rigorous.refraction (of altitude) air.lift =
        guard (¬air.fitted.Critical ∧
            (Refraction.Coefficients.ofAir air Refraction.observingWavelength).spread altitude ≠ 0)
          (rigorous.refraction altitude air) ∧
      (¬air.fitted.Steams → rigorous.refraction (of altitude) air.lift =
        of (rigorous.refraction altitude air)) ∧
      legacy.refraction (of altitude) air.lift =
        guard (Angle.toDegrees altitude < -2 ∨
            air.temperature ≠ -273 ∧
              Real.cos (Refraction.bent (Angle.toDegrees altitude)) ≠ 0)
          (legacy.refraction altitude air) :=
  ⟨Refraction.tangentModel_of air altitude,
    fun hsteams => Refraction.tangentModel_of_not_steams hsteams altitude,
    Refraction.cotangentModel_of h.2 air.pressure air.temperature⟩

theorem Strategy.refraction_domain_mild :
    let air : Atmosphere ℝ := ⟨10, 1010, 0.5⟩
    (0 ∈ Angle.latitudes ∧ ¬air.fitted.Steams) ∧
      rigorous.refraction (of 0) air.lift = of (rigorous.refraction 0 air) ∧
      legacy.refraction (of 0) air.lift = of (legacy.refraction 0 air) := by
  intro air
  have hhorizon : (0 : ℝ) ∈ Angle.latitudes :=
    ⟨by linarith [Real.pi_pos], by linarith [Real.pi_pos]⟩
  have hsteams : ¬air.fitted.Steams := by
    intro h
    have hfitted : air.fitted = air := by norm_num [Atmosphere.fitted, clamp, air]
    have hexponent : (0.7859 + 0.03477 * 10) / (1.0 + 0.00412 * 10) ≤ (2 : ℝ) := by norm_num
    have hpower : Scalar.pow (10.0 : ℝ) ((0.7859 + 0.03477 * 10) / (1.0 + 0.00412 * 10)) ≤ 100 := by
      have hten : (1 : ℝ) ≤ 10.0 := by norm_num
      refine (Real.rpow_le_rpow_of_exponent_le hten hexponent).trans ?_
      norm_num
    have hboils := h.saturation
    rw [hfitted] at hboils
    change (1010 : ℝ) ≤ Scalar.pow 10.0 _ * (1.0 + 1010 * (4.5e-6 + 6e-10 * 10 * 10)) at hboils
    have hbelow := mul_le_mul_of_nonneg_right hpower
      (show (0 : ℝ) ≤ 1.0 + 1010 * (4.5e-6 + 6e-10 * 10 * 10) by norm_num)
    norm_num at hbelow hboils
    linarith
  have hacute : Real.cos (Refraction.bent (Angle.toDegrees 0)) ≠ 0 := by
    have hbent : Refraction.bent (Angle.toDegrees 0) = 731 / 79200 * Real.pi := by
      norm_num [Refraction.bent, Angle.toDegrees, Angle.ofDegrees, Angle.degree]
      ring
    rw [hbent]
    refine (Real.cos_pos_of_mem_Ioo ⟨?_, ?_⟩).ne'
    · linarith [Real.pi_pos]
    · linarith [Real.pi_pos]
  obtain ⟨-, hrigorous, hlegacy⟩ := refraction_domain hhorizon air
  exact ⟨⟨hhorizon, hsteams⟩, hrigorous hsteams,
    hlegacy.trans (guard_pos (.inr ⟨by norm_num [air], hacute⟩) _)⟩

/-- A row with a temperature that no air has is read without complaint, and then there is no
refraction by the almanac. By rotations there is none in dry air at its boiling point. -/
theorem Strategy.refraction_undefined : letI := roundedText
    let row : StoredObservation ℝ :=
      ⟨1, 1, -1, none, none, some 1, some (-1), "2021-01-01T03:00:00", -273, 1010, 0.5, none⟩
    let temperature : ℝ := -(0.7859 / 0.03477)
    let dry : Atmosphere ℝ :=
      ⟨temperature, 1 / (1 - (4.5e-6 + 6e-10 * temperature * temperature)), 0⟩
    (∃ x, row.decode (1, -1) RunConfig.standardSite = .ok x ∧
      legacy.refraction (of 0) x.air.lift = undefined) ∧
      rigorous.refraction (of 0) dry.lift = undefined := by
  let := roundedText
  intro row temperature dry
  have hhorizon : (0 : ℝ) ∈ Angle.latitudes :=
    ⟨by linarith [Real.pi_pos], by linarith [Real.pi_pos]⟩
  constructor
  · have hdate : Instant.parse "2021-01-01T03:00:00" = .ok ⟨3818458800000000000, .utc⟩ := rfl
    have hfinite : ((row.measurements (1, -1)).find? fun m => !Scalar.isFinite m.2) = none := by
      simp
    rw [StoredObservation.decode, hfinite, hdate]
    refine ⟨_, rfl, ?_⟩
    have hzero : Angle.toDegrees (0 : ℝ) = 0 := zero_mul _
    refine (Refraction.cotangentModel_of hhorizon.2 1010 (-273)).trans (guard_neg ?_ _)
    rw [hzero]
    norm_num
  · have hfitted : dry.fitted = dry := by
      norm_num [Atmosphere.fitted, clamp, dry, temperature]
    have hexponent : (0.7859 + 0.03477 * temperature) / (1.0 + 0.00412 * temperature) = 0 := by
      norm_num [temperature]
    have hpower : Scalar.pow (10.0 : ℝ) 0 = 1 := Real.rpow_zero _
    have hcritical : dry.fitted.Critical := by
      rw [hfitted]
      refine ⟨by norm_num [dry, temperature], ?_⟩
      rw [Atmosphere.deficit, Refraction.saturation, hexponent, hpower]
      norm_num [dry, temperature]
    exact Refraction.tangentModel_of_critical hcritical 0

end TelescopePointing
