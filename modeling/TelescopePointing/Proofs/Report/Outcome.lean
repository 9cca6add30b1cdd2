import TelescopePointing.Proofs.Alike
import TelescopePointing.Report.Basic

namespace TelescopePointing

variable {α : Type} [Scalar α]

theorem ProjectionFit.ofValues_eq_error {values : List α} {bins : Nat} {cause : PointingError}
    (hvalues : values ≠ []) (hbins : bins ≠ 0) (h : ofValues values bins = .error cause) :
    (∃ reason, cause = .invalidConfiguration reason) ∧
      ∃ v ∈ values, Scalar.isFinite v = false := by
  unfold ofValues at h
  rw [if_neg hbins] at h
  split at h
  next hany =>
    cases h
    refine ⟨⟨_, rfl⟩, ?_⟩
    simpa using hany
  next =>
    cases values with
    | nil => exact absurd rfl hvalues
    | cons v rest =>
      dsimp only at h
      split at h
      · cases h
      · have hhistogram := map_eq_error h
        rw [Histogram.ofValues, if_neg hbins] at hhistogram
        cases hhistogram

namespace FitOutcome

theorem ofFit_eq_ok_iff {tag : String} {pairs : List (StarPair α)} {f : FittedModel α}
    {bins : Nat} {threshold : α} {o : FitOutcome α} :
    ofFit tag pairs f bins threshold = .ok o ↔
      ∃ projections, projectionsOf (ResidualPoint.ofPairs pairs f) bins = .ok projections ∧
        o = ⟨tag, f, ResidualPoint.ofPairs pairs f,
          .ofPoints (ResidualPoint.ofPairs pairs f) threshold, projections⟩ := by
  unfold ofFit
  dsimp only
  cases projectionsOf (ResidualPoint.ofPairs pairs f) bins with
  | error e => simp [Except.map]
  | ok projections => simp [Except.map, eq_comm]

theorem ofFit_axes {tag : String} {pairs : List (StarPair α)} {f : FittedModel α}
    {bins : Nat} {threshold : α} {o : FitOutcome α} (h : ofFit tag pairs f bins threshold = .ok o) :
    o.projections.map (·.axis) = ResidualAxis.all := by
  obtain ⟨projections, hprojections, rfl⟩ := ofFit_eq_ok_iff.mp h
  have haxis : ∀ (axis : ResidualAxis) (p : AxisProjection α),
      (ProjectionFit.ofValues (axis.arcseconds (ResidualPoint.ofPairs pairs f)) bins).map
        (AxisProjection.mk axis) = .ok p → p.axis = id axis := by
    intro axis p hp
    cases hfit : ProjectionFit.ofValues (axis.arcseconds (ResidualPoint.ofPairs pairs f)) bins with
    | error _ =>
      rw [hfit] at hp
      cases hp
    | ok fit =>
      rw [hfit] at hp
      cases hp
      rfl
  rw [map_eq_of_forall₂ haxis (mapM_eq_ok_iff.mp hprojections), List.map_id]

theorem ofFit_eq_error {tag : String} {pairs : List (StarPair α)}
    {f : FittedModel α} {bins : Nat} {threshold : α} {cause : PointingError} (hpairs : pairs ≠ [])
    (hbins : bins ≠ 0) (h : ofFit tag pairs f bins threshold = .error cause) :
    (∃ reason, cause = .invalidConfiguration reason) ∧
      ∃ axis : ResidualAxis, ∃ v ∈ axis.arcseconds (ResidualPoint.ofPairs pairs f),
        Scalar.isFinite v = false := by
  obtain ⟨axis, -, haxis⟩ := exists_of_mapM_eq_error (map_eq_error h)
  have hvalues : axis.arcseconds (ResidualPoint.ofPairs pairs f) ≠ [] := by
    simpa [ResidualAxis.arcseconds, ResidualPoint.ofPairs] using hpairs
  obtain ⟨hcause, hundefined⟩ := ProjectionFit.ofValues_eq_error hvalues hbins (map_eq_error haxis)
  exact ⟨hcause, axis, hundefined⟩

end FitOutcome

end TelescopePointing
