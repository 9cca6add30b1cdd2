import TelescopePointing.Proofs.LeastSquares.BestPoint
import TelescopePointing.Proofs.Model.Descent
import TelescopePointing.Proofs.Report.Outcome
import TelescopePointing.Proofs.Residual

namespace TelescopePointing

open LeastSquares Scalar

def PointingModel.StartsAtRest (m : PointingModel ℝ) : Prop :=
  ∀ longitude latitude, m.longitudeOffset m.start longitude latitude = 0 ∧
    m.latitudeOffset m.start longitude latitude = 0

theorem Term.Linear.value_start {t : Term ℝ} (h : t.Linear) (m : PointingModel ℝ)
    (b : Bearing ℝ) : t.value m.start b = 0 := by
  have hzero : m.start.getD t.place 0.0 = 0 := by
    rw [PointingModel.start, List.getD_eq_getElem?_getD, List.getElem?_map, real_zero]
    cases m.parameterNames[t.place]? <;> rfl
  rw [value, hzero, h, zero_mul]

theorem Term.total_start {terms : List (Term ℝ)} (h : ∀ t ∈ terms, t.Linear)
    (m : PointingModel ℝ) (b : Bearing ℝ) : Term.total m.start b terms = 0 := by
  rw [total_eq_sum]
  apply List.sum_eq_zero
  intro x hx
  obtain ⟨t, ht, rfl⟩ := List.mem_map.mp hx
  exact (h t ht).value_start m b

theorem AxisTerms.Linear.startsAtRest {terms : AxisTerms ℝ} (h : terms.Linear)
    (name tag : String) (frame : FitFrame) (names : List String) :
    (PointingModel.ofTerms name tag frame names terms).StartsAtRest :=
  fun _ _ => ⟨Term.total_start h.1 _ _, Term.total_start h.2 _ _⟩

theorem startsAtRest_mountModels {siteLatitude : ℝ} {m : PointingModel ℝ}
    (hm : m ∈ mountModels siteLatitude) : m.StartsAtRest := by
  simp only [mountModels, List.mem_cons, List.not_mem_nil, or_false] at hm
  rcases hm with rfl | rfl | rfl
  · exact AltAzimuth.linear_terms.startsAtRest _ _ _ _
  · exact (AltAzimuth.linear_terms.append AltAzimuth.linear_harmonicTerms).startsAtRest _ _ _ _
  · exact (Equatorial.linear_terms siteLatitude).startsAtRest _ _ _ _

namespace LeastSquares

variable (f : Residuals ℝ) (initial : List ℝ) (settings : Settings ℝ)

theorem minimize_cost : (minimize f initial settings).cost =
    normSquared (f (minimize f initial settings).parameters) := by
  obtain ⟨x, hx, iterations, status, hr⟩ := minimize_evaluated f initial settings
  rw [hr]
  exact congrArg Point.cost hx.eq

theorem minimize_cost_le :
    (minimize f initial settings).cost ≤ normSquared (f initial) := by
  rcases minimize_cases f initial settings with ⟨_, hr⟩ | ⟨_, _, _, hr⟩
  · rw [hr]
    exact le_rfl
  · obtain ⟨iterations, status, hend⟩ := iterate_eq_result f settings settings.maxIterations 0
      ⟨.at f initial, settings.initialDamping⟩
    rw [hr, hend]
    rcases (finalPoint_best f settings settings.maxIterations
      ⟨.at f initial, settings.initialDamping⟩).1 with heq | ⟨hlt, _⟩
    · rw [heq]
      exact le_rfl
    · exact hlt.le

end LeastSquares

/-- The square of what the mount missed a star by, on the sky. -/
noncomputable def StarPair.missSquared (p : StarPair ℝ) : ℝ :=
  (p.rawOffset.longitudeDifference * Real.cos p.catalog.latitude) ^ 2 +
    p.rawOffset.latitudeDifference ^ 2

namespace ModelFit

variable (m : PointingModel ℝ) (pairs : List (StarPair ℝ)) (settings : Settings ℝ)

/-- The residuals of either axis are one vector for the search and one point for each star in a
report. -/
theorem normSquared_residuals (p : List ℝ) (f : FittedModel ℝ) (hmodel : f.model = m)
    (hp : f.parameters = p) : normSquared (residuals m (pairs.map StarPair.rawOffset) p) =
      ((ResidualPoint.ofPairs pairs f).map ResidualPoint.distanceSquared).sum := by
  obtain rfl := hmodel
  obtain rfl := hp
  rw [normSquared_eq_dot]
  induction pairs with
  | nil => simp [residuals, ResidualPoint.ofPairs]
  | cons pair pairs ih =>
    simp only [residuals, ResidualPoint.ofPairs, List.map_cons, List.flatMap_cons,
      List.cons_append, List.nil_append, dot_cons, List.sum_cons] at ih ⊢
    rw [ih, ResidualPoint.distanceSquared]
    simp only [ResidualPoint.ofPair, FittedModel.longitudeResidual, FittedModel.latitudeResidual]
    ring

theorem normSquared_residuals_start (hm : m.StartsAtRest) :
    normSquared (residuals m (pairs.map StarPair.rawOffset) m.start) =
      (pairs.map StarPair.missSquared).sum := by
  rw [normSquared_eq_dot]
  induction pairs with
  | nil => simp [residuals]
  | cons pair pairs ih =>
    obtain ⟨hlongitude, hlatitude⟩ := hm pair.rawOffset.longitude pair.rawOffset.latitude
    simp only [residuals, List.map_cons, List.flatMap_cons, List.cons_append, List.nil_append,
      dot_cons, List.sum_cons] at ih ⊢
    rw [ih, PointingModel.longitudeResidual, PointingModel.latitudeResidual, hlongitude, hlatitude,
      StarPair.missSquared, sub_zero, sub_zero, ← add_assoc, sq, sq]
    rfl

theorem chosen_range {α : Type} (pairs : List (StarPair α)) :
    chosen pairs (List.range pairs.length) = pairs := by
  have hvalid : validIndices pairs.length (List.range pairs.length) = List.range pairs.length := by
    rw [validIndices, List.filter_eq_self]
    intro i hi
    rwa [List.contains_eq_mem, decide_eq_true_eq]
  rw [chosen, hvalid, filterMap_range]

theorem fit_range_eq_ok_iff {α : Type} [Scalar α] (m : PointingModel α)
    (pairs : List (StarPair α)) (settings : Settings α) {f : FittedModel α} :
    fit pairs (List.range pairs.length) m settings = .ok f ↔
      pairs ≠ [] ∧ f = onPairs pairs m settings := by
  by_cases hpairs : pairs = []
  · rw [hpairs]
    exact iff_of_false nofun (by simp)
  · have hlt : 0 < pairs.length := List.length_pos_iff.mpr hpairs
    rw [fit_eq (List.mem_range.mpr hlt) hlt, chosen_range, Except.ok.injEq, eq_comm]
    exact (and_iff_right hpairs).symm

end ModelFit

namespace Selection

variable (points : List (ResidualPoint ℝ)) (threshold : ℝ)

theorem countP_exceeds_mul_le : (points.countP (exceeds threshold) : ℝ) * threshold ^ 2 ≤
    (points.map ResidualPoint.distanceSquared).sum := by
  induction points with
  | nil => simp
  | cons p points ih =>
    rw [List.countP_cons, List.map_cons, List.sum_cons]
    by_cases h : exceeds threshold p = true
    · have hfar : threshold * threshold < p.distanceSquared := of_decide_eq_true h
      rw [if_pos h]
      push_cast
      linarith
    · have hnear : 0 ≤ p.distanceSquared := by
        exact add_nonneg (mul_self_nonneg _) (mul_self_nonneg _)
      rw [if_neg h]
      push_cast
      linarith

end Selection

/-- The cost of an outcome is the real one: that of its points, no more than without a model, and
with room for every selected star. -/
structure FitOutcome.AccountsFor (pairs : List (StarPair ℝ)) (threshold : ℝ) (o : FitOutcome ℝ) :
    Prop where
  points : o.points = ResidualPoint.ofPairs pairs o.fitted
  pointCount : o.fitted.pointCount = o.points.length
  cost : o.fitted.cost = (o.points.map ResidualPoint.distanceSquared).sum
  noWorse : o.fitted.cost ≤ (pairs.map StarPair.missSquared).sum
  selection : o.selection = .ofPoints o.points threshold
  selected : o.selection.selected.length * threshold ^ 2 ≤ o.fitted.cost

theorem FitOutcome.ofFit_accountsFor {m : PointingModel ℝ} (hm : m.StartsAtRest)
    {tag : String} {pairs : List (StarPair ℝ)} {settings : Settings ℝ} {bins : Nat}
    {threshold : ℝ} {o : FitOutcome ℝ}
    (h : ofFit tag pairs (ModelFit.onPairs pairs m settings) bins threshold = .ok o) :
    o.AccountsFor pairs threshold := by
  obtain ⟨projections, -, rfl⟩ := ofFit_eq_ok_iff.mp h
  have hcost : (ModelFit.onPairs pairs m settings).cost =
      ((ResidualPoint.ofPairs pairs (ModelFit.onPairs pairs m settings)).map
        ResidualPoint.distanceSquared).sum := by
    rw [← ModelFit.normSquared_residuals m pairs _ _ rfl rfl]
    exact minimize_cost _ _ _
  refine ⟨rfl, (List.length_map _).symm, hcost, ?_, rfl, ?_⟩
  · rw [← ModelFit.normSquared_residuals_start m pairs hm]
    exact minimize_cost_le _ _ _
  · dsimp only
    rw [hcost, Selection.length_selected]
    exact Selection.countP_exceeds_mul_le _ _

end TelescopePointing
