import TelescopePointing.Proofs.Fit.Convention
import TelescopePointing.Proofs.Fit.Cost
import TelescopePointing.Proofs.LeastSquares.Order
import TelescopePointing.Proofs.Observation.Order
import TelescopePointing.Proofs.Projection.Order

namespace TelescopePointing

open LeastSquares

structure Chosen {ρ : Type} (rows rows' : List ρ) (pairs pairs' : List (StarPair ℝ))
    (indices indices' : List Nat) : Prop where
  isEmpty : indices'.isEmpty = indices.isEmpty
  drawn : Drawn rows rows' (indices.filterMap fun i => pairs[i]?)
    (indices'.filterMap fun i => pairs'[i]?)

/-- The points of an outcome, with whether each is selected and whether it is dropped. -/
def FitOutcome.classified {α : Type} (o : FitOutcome α) : List (ResidualPoint α × Bool × Bool) :=
  o.points.zipIdx.map fun (p, i) =>
    (p, o.selection.selected.contains i, o.selection.dropped.contains i)

structure FitOutcome.Reordered {ρ : Type} (rows rows' : List ρ) (o o' : FitOutcome ℝ) :
    Prop where
  tag : o'.tag = o.tag
  fitted : o'.fitted = o.fitted
  classified : Drawn rows rows' o.classified o'.classified
  projections : o'.projections = o.projections

structure FitOutcome.ReorderedOn {ρ : Type} (rows rows' : List ρ) (pairs pairs' : List (StarPair ℝ))
    (o o' : FitOutcome ℝ) : Prop extends o.Reordered rows rows' o' where
  selected : Chosen rows rows' pairs pairs' o.selection.selected o'.selection.selected
  dropped : Chosen rows rows' pairs pairs' o.selection.dropped o'.selection.dropped

theorem FitOutcome.classified_eq {o : FitOutcome ℝ} {threshold : ℝ}
    (h : o.selection = .ofPoints o.points threshold) :
    o.classified = o.points.map fun p => (p, exceeds threshold p, !exceeds threshold p) := by
  rw [classified, h, Selection.ofPoints_eq_findIdxs, ← o.points.zipIdx_map_fst 0, List.map_map,
    List.zipIdx_map_fst]
  refine List.map_congr_left fun e he => ?_
  have hget := List.mem_zipIdx_iff_getElem?.mp he
  dsimp only [Function.comp_apply]
  rw [contains_findIdxs hget, contains_findIdxs hget]

section Order

variable {ρ : Type} {rows rows' : List ρ} {pairs pairs' : List (StarPair ℝ)}

theorem ModelFit.onPairs_perm (h : pairs.Perm pairs') (m : PointingModel ℝ)
    (settings : Settings ℝ) : onPairs pairs' m settings = onPairs pairs m settings := by
  obtain ⟨order, horder⟩ := Rearrangement.exists_of_perm (h.map StarPair.rawOffset) 2
  have hminimize : minimize (residuals m (pairs'.map StarPair.rawOffset)) m.start settings =
      minimize (residuals m (pairs.map StarPair.rawOffset)) m.start settings :=
    minimize_rearranged order (fun p _ => length_residuals m _ p)
      (fun p _ => (horder _ fun _ => rfl).symm) settings
  unfold onPairs
  rw [hminimize, h.length_eq]

theorem ModelFit.fit_range_perm (h : pairs.Perm pairs') (m : PointingModel ℝ)
    (settings : Settings ℝ) :
    fit pairs' (List.range pairs'.length) m settings =
      fit pairs (List.range pairs.length) m settings := by
  by_cases hne : pairs = []
  · subst hne
    rw [← h.nil_eq]
  · have hne' : pairs' ≠ [] := by
      rintro rfl
      exact hne h.eq_nil
    rw [(fit_range_eq_ok_iff m pairs settings).mpr ⟨hne, rfl⟩,
      (fit_range_eq_ok_iff m pairs' settings).mpr ⟨hne', rfl⟩, onPairs_perm h]

theorem FitOutcome.projectionsOf_perm {points points' : List (ResidualPoint ℝ)}
    (h : points.Perm points') (bins : Nat) :
    projectionsOf points' bins = projectionsOf points bins := by
  have harcseconds : ∀ a : ResidualAxis, ProjectionFit.ofValues (a.arcseconds points') bins =
      ProjectionFit.ofValues (a.arcseconds points) bins :=
    fun a => ProjectionFit.ofValues_perm (h.map _) bins
  simp only [projectionsOf, harcseconds]

variable (hrows : rows.Perm rows') (h : Drawn rows rows' pairs pairs')
include hrows h

theorem Chosen.of_findIdxs (p : StarPair ℝ → Bool) :
    Chosen rows rows' pairs pairs' (pairs.findIdxs p) (pairs'.findIdxs p) where
  isEmpty := by
    rw [Bool.eq_iff_iff, List.isEmpty_iff_length_eq_zero, List.isEmpty_iff_length_eq_zero,
      List.length_findIdxs, List.length_findIdxs, (h.perm hrows).countP_eq]
  drawn := by
    rw [filterMap_findIdxs, filterMap_findIdxs]
    exact h.filter p

theorem FitOutcome.ofFit_reordered (f : FittedModel ℝ) (tag : String) (bins : Nat)
    (threshold : ℝ) :
    Alike (ReorderedOn rows rows' pairs pairs') (ofFit tag pairs f bins threshold)
      (ofFit tag pairs' f bins threshold) := by
  have hpoints : Drawn rows rows' (ResidualPoint.ofPairs pairs f)
      (ResidualPoint.ofPairs pairs' f) := h.map _
  have hchosen : ∀ p : ResidualPoint ℝ → Bool, Chosen rows rows' pairs pairs'
      ((ResidualPoint.ofPairs pairs f).findIdxs p)
      ((ResidualPoint.ofPairs pairs' f).findIdxs p) := by
    intro p
    rw [ResidualPoint.ofPairs, ResidualPoint.ofPairs, List.findIdxs_map, List.findIdxs_map]
    exact .of_findIdxs hrows h _
  unfold ofFit
  dsimp only
  rw [projectionsOf_perm (hpoints.perm hrows)]
  refine (Alike.refl (fun _ => rfl) _).map fun projections projections' hprojections => ?_
  refine ⟨⟨rfl, rfl, ?_, hprojections.symm⟩, ?_, ?_⟩
  · rw [classified_eq rfl, classified_eq rfl]
    exact hpoints.map _
  · simp only [Selection.ofPoints_eq_findIdxs]
    exact hchosen _
  · simp only [Selection.ofPoints_eq_findIdxs]
    exact hchosen _

end Order

end TelescopePointing
