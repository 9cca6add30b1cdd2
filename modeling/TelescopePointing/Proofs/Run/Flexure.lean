import TelescopePointing.Proofs.Engine.RoundTrip
import TelescopePointing.Proofs.Model.Contribution
import TelescopePointing.Proofs.Run.Equatorial

namespace TelescopePointing

open Scalar

/-- The directions to the east, to the north and to a place are at right angles to each other. -/
theorem Direction.dot_self_eq (w : Direction ℝ) (place : SkyPosition ℝ) :
    w.dot (.east place.longitude) ^ 2 + w.dot (.north place.longitude place.latitude) ^ 2 +
      w.dot place.direction ^ 2 = w.dot w := by
  simp only [SkyPosition.direction, ofAngles_eq, dot_eq, east, north]
  linear_combination
    ((w.x * Real.cos place.longitude + w.y * Real.sin place.longitude) ^ 2 + w.z ^ 2) *
        Real.sin_sq_add_cos_sq place.latitude +
      (w.x ^ 2 + w.y ^ 2) * Real.sin_sq_add_cos_sq place.longitude

namespace Horizon

/-- The direction of the zenith by the meridian, the west and the pole. -/
noncomputable def zenith (latitude : ℝ) : Direction ℝ :=
  ⟨Real.cos latitude, 0, Real.sin latitude⟩

noncomputable def altitude (latitude : ℝ) (place : SkyPosition ℝ) : ℝ :=
  (ofHourAngle place.longitude place.latitude latitude).2

/-- How far a pull away from the zenith goes toward growing hour angles and declinations. -/
noncomputable def sag (latitude : ℝ) (place : SkyPosition ℝ) : ℝ × ℝ :=
  (-(zenith latitude).dot (.east place.longitude),
    -(zenith latitude).dot (.north place.longitude place.latitude))

variable (latitude : ℝ) (place : SkyPosition ℝ)

theorem zenith_dot_self : (zenith latitude).dot (zenith latitude) = 1 := by
  rw [Direction.dot_eq, zenith]
  linear_combination Real.sin_sq_add_cos_sq latitude

theorem sin_altitude :
    Real.sin (altitude latitude place) = (zenith latitude).dot place.direction := by
  have hz := congrArg Direction.z
    (ofAngles_ofHourAngle place.longitude place.latitude latitude)
  simp only [Direction.ofAngles_eq, exchange] at hz
  rw [altitude, hz, SkyPosition.direction, Direction.ofAngles_eq, Direction.dot_eq, zenith]
  ring

theorem sag_squares : (sag latitude place).1 ^ 2 + (sag latitude place).2 ^ 2 =
    Real.cos (altitude latitude place) ^ 2 := by
  have hzenith := (zenith latitude).dot_self_eq place
  rw [zenith_dot_self, ← sin_altitude] at hzenith
  rw [sag, neg_sq, neg_sq, Real.cos_sq']
  linear_combination hzenith

end Horizon

namespace Equatorial

variable (siteLatitude : ℝ)

theorem model_sags : (model siteLatitude).Contributes ["TF"] fun p place =>
    let flexure := (model siteLatitude).parameter p "TF"
    (flexure * (Horizon.sag siteLatitude place).1,
      flexure * (Horizon.sag siteLatitude place).2) := by
  refine PointingModel.contributes_ofTerms (linear_terms siteLatitude) _ _ _ _ fun p place => ?_
  have hterms : (terms siteLatitude).named parameters ["TF"] =
      { longitude := [⟨6, fun x b => x * Scalar.cos siteLatitude * b.sinLongitude⟩],
        latitude := [⟨6, fun x b => x * (Scalar.cos siteLatitude * b.cosLongitude * b.sinLatitude -
          Scalar.sin siteLatitude * b.cosLatitude)⟩] } :=
    rfl
  have hflexure : (model siteLatitude).parameter p "TF" = p.getD 6 0 := rfl
  rw [hterms, hflexure, PointingModel.offsets_ofTerms, Bearing.of_eq]
  simp only [List.map_cons, List.map_nil, List.sum_cons, List.sum_nil, real_sin, real_cos,
    Horizon.sag, Horizon.zenith, Direction.dot_eq, Direction.north, Direction.east]
  apply Prod.ext
  · ring
  · ring

theorem model_droops : (model siteLatitude).Contributes ["DAF"] fun p place =>
    (-((model siteLatitude).parameter p "DAF" * Real.sin (Horizon.altitude siteLatitude place)),
      0) := by
  refine PointingModel.contributes_ofTerms (linear_terms siteLatitude) _ _ _ _ fun p place => ?_
  have hterms : (terms siteLatitude).named parameters ["DAF"] =
      { longitude := [⟨8, fun x b => -(x * (Scalar.cos siteLatitude * b.cosLongitude *
          b.cosLatitude + Scalar.sin siteLatitude * b.sinLatitude))⟩],
        latitude := [] } :=
    rfl
  have hflexure : (model siteLatitude).parameter p "DAF" = p.getD 8 0 := rfl
  rw [hterms, hflexure, Horizon.sin_altitude, PointingModel.offsets_ofTerms, Bearing.of_eq]
  simp only [List.map_cons, List.map_nil, List.sum_cons, List.sum_nil, real_sin, real_cos,
    Horizon.zenith, Direction.dot_eq, SkyPosition.direction, Direction.ofAngles_eq]
  apply Prod.ext
  · ring
  · rfl

end Equatorial

section Config

variable [NumberText ℝ] {c : RunConfig ℝ} {registry : ModelRegistry ℝ}

/-- The flexure of an equatorial mount goes with the horizon of the engine. -/
theorem flexure_follows_horizon (hcheck : c.check registry = .ok ())
    (hequatorial : c.isEquatorial = true) (hmodel : ∀ name ∈ c.model, name = Equatorial.name)
    (hregistry : ∀ options, registry.create Equatorial.name options =
      .ok (Equatorial.model options.siteLatitude)) :
    ∃ site m, c.checkedSite = .ok site ∧ c.pointingModel registry = .ok m ∧
      m = Equatorial.model site.latitudeAngle ∧
      (m.Contributes ["DAF"] fun p place =>
        (-(m.parameter p "DAF" * Real.sin (Horizon.altitude site.latitudeAngle place)), 0)) ∧
      (m.Contributes ["TF"] fun p place =>
        (m.parameter p "TF" * (Horizon.sag site.latitudeAngle place).1,
          m.parameter p "TF" * (Horizon.sag site.latitudeAngle place).2)) ∧
      ∀ place, (Horizon.sag site.latitudeAngle place).1 ^ 2 +
        (Horizon.sag site.latitudeAngle place).2 ^ 2 =
          Real.cos (Horizon.altitude site.latitudeAngle place) ^ 2 := by
  obtain ⟨-, hsite, m, hm⟩ := RunConfig.of_check_eq_ok hcheck
  have hname : c.modelName = Equatorial.name := by
    unfold RunConfig.modelName
    split
    next name hasked => exact hmodel name hasked
    next => exact if_pos hequatorial
  obtain rfl : m = Equatorial.model c.site.latitudeAngle := by
    have hcreated := hm
    rw [RunConfig.pointingModel, hname, hregistry] at hcreated
    obtain ⟨created, hmade, hframe⟩ := bind_eq_ok hcreated
    obtain rfl := Except.ok.inj hmade
    split at hframe
    · exact (Except.ok.inj hframe).symm
    · cases hframe
  exact ⟨c.site, _, hsite, hm, rfl, Equatorial.model_droops _, Equatorial.model_sags _,
    Horizon.sag_squares _⟩

theorem equatorial_check : equatorial.config.check equatorial.registry = .ok () := by
  have hmodel : equatorial.config.pointingModel equatorial.registry =
      .ok (Equatorial.model (RunConfig.standardSite (α := ℝ)).latitudeAngle) := by
    change (ModelRegistry.standard.create Equatorial.name _ >>= _) = _
    rw [ModelRegistry.create_equatorial]
    rfl
  refine RunConfig.check_eq_ok (by decide) (by decide) ?_ standardSite_check hmodel
  change (Scalar.isFinite (30.0 : ℝ) && decide ((0.0 : ℝ) ≤ 30.0)) = true
  norm_num

end Config

theorem flexure_follows_horizon_standard : letI := roundedText
    equatorial.config.check equatorial.registry = .ok () ∧
    equatorial.config.isEquatorial = true ∧
    (∀ name ∈ equatorial.config.model, name = Equatorial.name) ∧
    (∀ options, equatorial.registry.create Equatorial.name options =
      .ok (Equatorial.model options.siteLatitude)) ∧
    ∃ site m, equatorial.config.checkedSite = .ok site ∧
      equatorial.config.pointingModel equatorial.registry = .ok m ∧
      m = Equatorial.model site.latitudeAngle ∧
      (m.Contributes ["DAF"] fun p place =>
        (-(m.parameter p "DAF" * Real.sin (Horizon.altitude site.latitudeAngle place)), 0)) ∧
      (m.Contributes ["TF"] fun p place =>
        (m.parameter p "TF" * (Horizon.sag site.latitudeAngle place).1,
          m.parameter p "TF" * (Horizon.sag site.latitudeAngle place).2)) ∧
      ∀ place, (Horizon.sag site.latitudeAngle place).1 ^ 2 +
        (Horizon.sag site.latitudeAngle place).2 ^ 2 =
          Real.cos (Horizon.altitude site.latitudeAngle place) ^ 2 := by
  let := roundedText
  have hequatorial : equatorial.config.isEquatorial = true := rfl
  have hmodel : ∀ name ∈ equatorial.config.model, name = Equatorial.name := nofun
  have hregistry : ∀ options, equatorial.registry.create Equatorial.name options =
      .ok (Equatorial.model options.siteLatitude) := ModelRegistry.create_equatorial
  exact ⟨equatorial_check, hequatorial, hmodel, hregistry,
    flexure_follows_horizon equatorial_check hequatorial hmodel hregistry⟩

end TelescopePointing
