import Mathlib.Data.List.Basic
import TelescopePointing.Residual

namespace TelescopePointing

section Places

variable {β : Type} (p : β → Bool) (xs : List β)

theorem findIdxs_eq_map_filter :
    xs.findIdxs p = (xs.zipIdx.filter fun e => p e.1).map (·.2) := by
  rw [List.findIdxs_eq_filterMap_zipIdx, ← List.filterMap_eq_map, List.filterMap_filter]
  refine List.filterMap_congr fun e _ => ?_
  cases p e.1 <;> rfl

theorem filterMap_findIdxs : ((xs.findIdxs p).filterMap fun i => xs[i]?) = xs.filter p := by
  have hget : ∀ e ∈ xs.zipIdx.filter fun e => p e.1, xs[e.2]? = some e.1 := fun e he =>
    List.mem_zipIdx_iff_getElem?.mp (List.mem_of_mem_filter he)
  rw [findIdxs_eq_map_filter, List.filterMap_map]
  calc (xs.zipIdx.filter fun e => p e.1).filterMap (fun e => xs[e.2]?)
      = (xs.zipIdx.filter fun e => p e.1).filterMap (some ∘ Prod.fst) := List.filterMap_congr hget
    _ = (xs.zipIdx.filter (p ∘ Prod.fst)).map Prod.fst := by rw [List.filterMap_eq_map]; rfl
    _ = xs.filter p := by rw [← List.filter_map, List.zipIdx_map_fst]

/-- The places of a kind and those of the other kind are all places, each once. -/
theorem findIdxs_append_perm :
    (xs.findIdxs p ++ xs.findIdxs fun x => !p x).Perm (List.range xs.length) := by
  have hsplit := (List.filter_append_perm (fun e => p e.1) xs.zipIdx).map (·.2)
  rw [List.map_append, List.zipIdx_map_snd, ← List.range_eq_range'] at hsplit
  rw [findIdxs_eq_map_filter, findIdxs_eq_map_filter]
  exact hsplit

theorem filterMap_range : (List.range xs.length).filterMap (fun i => xs[i]?) = xs := by
  calc (List.range xs.length).filterMap (fun i => xs[i]?)
      = (xs.findIdxs fun _ => true).filterMap (fun i => xs[i]?) := by
        rw [findIdxs_eq_map_filter, List.filter_eq_self.mpr fun _ _ => rfl, List.zipIdx_map_snd,
          ← List.range_eq_range']
    _ = xs.filter fun _ => true := filterMap_findIdxs _ xs
    _ = xs := List.filter_eq_self.mpr fun _ _ => rfl

variable {p xs} in
theorem contains_findIdxs {i : Nat} {x : β} (h : xs[i]? = some x) :
    (xs.findIdxs p).contains i = p x := by
  obtain ⟨hi, rfl⟩ := List.getElem?_eq_some_iff.mp h
  rw [Bool.eq_iff_iff, List.contains_iff_mem, List.mem_findIdxs_iff_pos_getElem hi]

end Places

namespace Selection

variable {α : Type} [Scalar α] (points : List (ResidualPoint α)) (threshold : α)

theorem ofPoints_eq_findIdxs : ofPoints points threshold =
    ⟨points.findIdxs (exceeds threshold), points.findIdxs fun p => !exceeds threshold p⟩ := by
  rw [findIdxs_eq_map_filter, findIdxs_eq_map_filter]
  rfl

theorem length_selected : (ofPoints points threshold).selected.length =
    points.countP (exceeds threshold) := by
  rw [ofPoints_eq_findIdxs, List.length_findIdxs]

theorem selected_append_dropped_perm :
    ((ofPoints points threshold).selected ++ (ofPoints points threshold).dropped).Perm
      (List.range points.length) := by
  rw [ofPoints_eq_findIdxs]
  exact findIdxs_append_perm _ points

theorem ascending : (ofPoints points threshold).selected.Pairwise (· < ·) ∧
    (ofPoints points threshold).dropped.Pairwise (· < ·) := by
  rw [ofPoints_eq_findIdxs]
  exact ⟨List.pairwise_findIdxs, List.pairwise_findIdxs⟩

variable {points threshold} in
theorem lt_length_of_mem {i : Nat} (h : i ∈ (ofPoints points threshold).selected ∨
    i ∈ (ofPoints points threshold).dropped) : i < points.length := by
  rw [ofPoints_eq_findIdxs] at h
  exact h.elim (List.lt_add_of_mem_findIdxs i) (List.lt_add_of_mem_findIdxs i)

end Selection

end TelescopePointing
