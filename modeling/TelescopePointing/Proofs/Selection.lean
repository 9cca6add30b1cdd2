import Mathlib.Data.Finset.Range
import TelescopePointing.Proofs.Residual
import TelescopePointing.Proofs.Scalar.Square

namespace TelescopePointing

open Scalar

namespace Selection

variable {α : Type} [Scalar α]

section Partition

variable (points more : List (ResidualPoint α)) (threshold : α)

theorem selected_disjoint_dropped :
    Disjoint (ofPoints points threshold).selected.toFinset
      (ofPoints points threshold).dropped.toFinset := by
  have hnodup := (selected_append_dropped_perm points threshold).nodup_iff.mpr List.nodup_range
  exact List.disjoint_toFinset_iff_disjoint.mpr (List.disjoint_of_nodup_append hnodup)

theorem selected_union_dropped :
    (ofPoints points threshold).selected.toFinset ∪ (ofPoints points threshold).dropped.toFinset =
      Finset.range points.length := by
  rw [← List.toFinset_append, List.toFinset_eq_of_perm _ _ (selected_append_dropped_perm _ _),
    List.toFinset_range]

/-- The indices of further points move behind those of the points before them. -/
theorem ofPoints_append : ofPoints (points ++ more) threshold =
    ⟨(ofPoints points threshold).selected ++
        (ofPoints more threshold).selected.map (points.length + ·),
      (ofPoints points threshold).dropped ++
        (ofPoints more threshold).dropped.map (points.length + ·)⟩ := by
  have hshift : ∀ p : ResidualPoint α → Bool, (points ++ more).findIdxs p =
      points.findIdxs p ++ (more.findIdxs p).map (points.length + ·) := by
    intro p
    rw [List.findIdxs_append, zero_add, List.findIdxs_start (s := points.length)]
    simp only [Nat.add_comm]
  rw [ofPoints_eq_findIdxs, ofPoints_eq_findIdxs, ofPoints_eq_findIdxs, hshift, hshift]

variable {points threshold}

theorem mem_selected_iff {i : Nat} (hi : i < points.length) :
    i ∈ (ofPoints points threshold).selected ↔
      threshold * threshold < points[i].distanceSquared := by
  rw [ofPoints_eq_findIdxs, List.mem_findIdxs_iff_pos_getElem hi, exceeds, decide_eq_true_iff]

theorem mem_dropped_iff {i : Nat} (hi : i < points.length) :
    i ∈ (ofPoints points threshold).dropped ↔
      ¬ threshold * threshold < points[i].distanceSquared := by
  rw [ofPoints_eq_findIdxs, List.mem_findIdxs_iff_pos_getElem hi, exceeds, Bool.not_eq_true',
    decide_eq_false_iff_not]

end Partition

/-- A higher threshold selects fewer points. -/
theorem selected_antitone [LawfulSquare α] (points : List (ResidualPoint α)) {low high : α}
    (hlow : 0.0 ≤ low) (hle : low ≤ high) :
    (ofPoints points high).selected ⊆ (ofPoints points low).selected := by
  intro i hi
  have hlt := lt_length_of_mem (.inl hi)
  rw [mem_selected_iff hlt] at hi ⊢
  exact LawfulSquare.lt_of_le_of_lt (LawfulSquare.mul_self_le hlow hle) hi

end Selection

/-- Every point is on one side of the threshold, at the threshold among the dropped ones; the
selection shrinks as the threshold rises, and that of two lists of points is made of theirs. Rounded
arithmetic keeps all of this. -/
theorem selection_isMonotonePartition {α : Type} [Scalar α] [LawfulOrder α] [LawfulSquare α] :
    (∀ (points : List (ResidualPoint α)) (threshold : α),
      let s := Selection.ofPoints points threshold
      Disjoint s.selected.toFinset s.dropped.toFinset ∧
      s.selected.toFinset ∪ s.dropped.toFinset = Finset.range points.length ∧
      ∀ (i : Nat) (hi : i < points.length),
        (i ∈ s.selected ↔ threshold * threshold <
          points[i].latitudeResidual * points[i].latitudeResidual +
            points[i].longitudeResidual * points[i].longitudeResidual) ∧
        (points[i].distanceSquared = threshold * threshold → i ∈ s.dropped)) ∧
    (∀ (points : List (ResidualPoint α)) (low high : α), 0.0 ≤ low → low ≤ high →
      (Selection.ofPoints points high).selected ⊆ (Selection.ofPoints points low).selected) ∧
    ∀ (points more : List (ResidualPoint α)) (threshold : α),
      let s := Selection.ofPoints points threshold
      let t := Selection.ofPoints more threshold
      Selection.ofPoints (points ++ more) threshold =
        ⟨s.selected ++ t.selected.map (points.length + ·),
          s.dropped ++ t.dropped.map (points.length + ·)⟩ := by
  refine ⟨fun points threshold => ⟨Selection.selected_disjoint_dropped _ _,
    Selection.selected_union_dropped _ _, fun i hi => ⟨Selection.mem_selected_iff hi, ?_⟩⟩,
    fun points _ _ hlow hle => Selection.selected_antitone points hlow hle,
    Selection.ofPoints_append⟩
  intro hboundary
  rw [Selection.mem_dropped_iff hi, hboundary]
  exact LawfulOrder.lt_irrefl _

theorem selection_isMonotonePartition_at_boundary :
    let here : SkyPosition Float := ⟨0.0, 0.0, .hourAngle, ⟨0, .utc⟩⟩
    let near : ResidualPoint Float := ⟨here, here, 0.0, 0.0, 3.0, 4.0, 1, none⟩
    (0.0 : Float) ≤ 4.0 ∧ (4.0 : Float) ≤ 5.0 ∧
      (Selection.ofPoints [near] (5.0 : Float)).selected ⊆
        (Selection.ofPoints [near] (4.0 : Float)).selected ∧
      0 ∈ (Selection.ofPoints [near] (5.0 : Float)).dropped := by
  have hnonneg : (0.0 : Float) ≤ 4.0 := by decide +kernel
  have hle : (4.0 : Float) ≤ 5.0 := by decide +kernel
  refine ⟨hnonneg, hle, selection_isMonotonePartition.2.1 _ _ _ hnonneg hle, ?_⟩
  exact ((selection_isMonotonePartition.1 _ _).2.2 0 one_pos).2 (by decide +kernel)

end TelescopePointing
