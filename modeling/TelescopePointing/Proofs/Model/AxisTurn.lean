import TelescopePointing.Proofs.Model.Contribution
import TelescopePointing.Proofs.Sky.Direction

namespace TelescopePointing

open Scalar

/-- How a place moves toward the east and toward the north when the sphere turns a little. The turn
is a vector along its axis, as long as the angle. -/
noncomputable def Direction.turn (w : Direction ℝ) (place : SkyPosition ℝ) : ℝ × ℝ :=
  let v := w.cross place.direction
  (v.dot (.east place.longitude), v.dot (.north place.longitude place.latitude))

/-- A turn carries a place across the plane of the axis and the place. -/
theorem Direction.turn_eq (w : Direction ℝ) (place : SkyPosition ℝ) :
    w.turn place = (w.dot (.north place.longitude place.latitude),
      -w.dot (.east place.longitude)) := by
  have hlongitude := Real.sin_sq_add_cos_sq place.longitude
  have hlatitude := Real.sin_sq_add_cos_sq place.latitude
  simp only [turn, SkyPosition.direction, cross, ofAngles_eq, dot_eq, east, north]
  apply Prod.ext
  · linear_combination (w.z * Real.cos place.latitude) * hlongitude
  · linear_combination (w.x * Real.sin place.longitude - w.y * Real.cos place.longitude) * hlatitude

namespace AltAzimuth

/-- The tilts of the azimuth axis with the index offset of the azimuth, as one turn. -/
noncomputable def turn (m : PointingModel ℝ) (p : List ℝ) : Direction ℝ :=
  ⟨-m.parameter p "AN", -m.parameter p "AW", m.parameter p "IA"⟩

theorem offsets_named (name tag : String) (frame : FitFrame) (names : List String) (p : List ℝ)
    (place : SkyPosition ℝ) :
    (PointingModel.ofTerms name tag frame names
      (terms.named parameters ["IA", "AN", "AW"])).offsets p place =
        Direction.turn ⟨-p.getD 3 0, -p.getD 4 0, p.getD 0 0⟩ place := by
  have hterms : (terms (α := ℝ)).named parameters ["IA", "AN", "AW"] =
      { longitude := [
          ⟨0, fun x b => x * b.cosLatitude⟩,
          ⟨3, fun x b => x * b.cosLongitude * b.sinLatitude⟩,
          ⟨4, fun x b => x * b.sinLongitude * b.sinLatitude⟩],
        latitude := [⟨3, fun x b => -(x * b.sinLongitude)⟩, ⟨4, fun x b => x * b.cosLongitude⟩] } :=
    rfl
  rw [Direction.turn_eq, hterms, PointingModel.offsets_ofTerms, Bearing.of_eq]
  simp only [List.map_cons, List.map_nil, List.sum_cons, List.sum_nil, Direction.dot_eq,
    Direction.north, Direction.east]
  apply Prod.ext
  · ring
  · ring

theorem harmonic_named : (terms.append (α := ℝ) harmonicTerms).named
    (parameters ++ harmonicParameters) ["IA", "AN", "AW"] =
      terms.named parameters ["IA", "AN", "AW"] := rfl

theorem basic_turns : basic.Contributes ["IA", "AN", "AW"] fun p => (turn basic p).turn :=
  PointingModel.contributes_ofTerms linear_terms _ _ _ _ fun _ _ => offsets_named _ _ _ _ _ _

theorem harmonic_turns :
    harmonic.Contributes ["IA", "AN", "AW"] fun p => (turn harmonic p).turn := by
  refine PointingModel.contributes_ofTerms (linear_terms.append linear_harmonicTerms) _ _ _ _
    fun p place => ?_
  rw [harmonic_named, offsets_named]
  rfl

end AltAzimuth

namespace Equatorial

/-- The tilts of the polar axis with the index offset of the hour angle, as one turn. -/
noncomputable def turn (m : PointingModel ℝ) (p : List ℝ) : Direction ℝ :=
  ⟨m.parameter p "MA", -m.parameter p "ME", m.parameter p "IH"⟩

theorem model_turns (siteLatitude : ℝ) : (model siteLatitude).Contributes ["IH", "MA", "ME"]
    fun p => (turn (model siteLatitude) p).turn := by
  refine PointingModel.contributes_ofTerms (linear_terms siteLatitude) _ _ _ _ fun p place => ?_
  have hterms : (terms siteLatitude).named parameters ["IH", "MA", "ME"] =
      { longitude := [
          ⟨0, fun x b => x * b.cosLatitude⟩,
          ⟨4, fun x b => -(x * b.cosLongitude * b.sinLatitude)⟩,
          ⟨5, fun x b => x * b.sinLongitude * b.sinLatitude⟩],
        latitude := [⟨4, fun x b => x * b.sinLongitude⟩, ⟨5, fun x b => x * b.cosLongitude⟩] } :=
    rfl
  have hturn : turn (model siteLatitude) p = ⟨p.getD 4 0, -p.getD 5 0, p.getD 0 0⟩ := rfl
  rw [Direction.turn_eq, hterms, hturn, PointingModel.offsets_ofTerms, Bearing.of_eq]
  simp only [List.map_cons, List.map_nil, List.sum_cons, List.sum_nil, Direction.dot_eq,
    Direction.north, Direction.east]
  apply Prod.ext
  · ring
  · ring

end Equatorial

/-- The tilts of an axis and the index offset about it turn the sphere a little, and nothing else of
the offsets depends on them. -/
theorem tilts_turn_sphere :
    (AltAzimuth.basic.Contributes ["IA", "AN", "AW"] fun p =>
        (AltAzimuth.turn AltAzimuth.basic p).turn) ∧
      (AltAzimuth.harmonic.Contributes ["IA", "AN", "AW"] fun p =>
        (AltAzimuth.turn AltAzimuth.harmonic p).turn) ∧
      ∀ siteLatitude, (Equatorial.model siteLatitude).Contributes ["IH", "MA", "ME"] fun p =>
        (Equatorial.turn (Equatorial.model siteLatitude) p).turn :=
  ⟨AltAzimuth.basic_turns, AltAzimuth.harmonic_turns, Equatorial.model_turns⟩

end TelescopePointing
