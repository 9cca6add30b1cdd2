import Mathlib.Data.Finset.Sort
import TelescopePointing.Proofs.Fit.Cost

namespace TelescopePointing.ModelFit

def named (n : Nat) (selected : List Nat) : Finset Nat := selected.toFinset.filter (· < n)

theorem mem_named {n : Nat} {selected : List Nat} {i : Nat} :
    i ∈ named n selected ↔ i ∈ selected ∧ i < n := by
  rw [named, Finset.mem_filter, List.mem_toFinset]

theorem validIndices_eq_sort (n : Nat) (selected : List Nat) :
    validIndices n selected = (named n selected).sort := by
  have hnodup : (validIndices n selected).Nodup := List.nodup_range.filter _
  have hordered : (validIndices n selected).Pairwise (· ≤ ·) := List.pairwise_le_range.filter _
  have hmembers : (validIndices n selected).toFinset = named n selected := by
    ext i
    rw [List.mem_toFinset, validIndices, List.mem_filter, List.mem_range, List.contains_iff_mem,
      mem_named, and_comm]
  rw [← hmembers, (List.toFinset_sort _ hnodup).mpr hordered]

theorem validIndices_of_ascending {n : Nat} {selected : List Nat}
    (hascending : selected.Pairwise (· < ·)) (hlt : ∀ i ∈ selected, i < n) :
    validIndices n selected = selected := by
  have hmembers : named n selected = selected.toFinset :=
    Finset.filter_true_of_mem fun i hi => hlt i (List.mem_toFinset.mp hi)
  rw [validIndices_eq_sort, hmembers]
  exact (List.toFinset_sort _ (hascending.imp Nat.ne_of_lt)).mpr (hascending.imp Nat.le_of_lt)

variable {α : Type} {pairs : List (StarPair α)} {selected : List Nat}

theorem chosen_eq_nil (h : ∀ i ∈ selected, pairs.length ≤ i) : chosen pairs selected = [] := by
  have hvalid : validIndices pairs.length selected = [] := by
    rw [validIndices, List.filter_eq_nil_iff]
    intro i hi
    rw [List.contains_iff_mem]
    exact fun hmem => Nat.not_lt.mpr (h i hmem) (List.mem_range.mp hi)
  rw [chosen, hvalid]
  rfl

variable (pairs selected) in
theorem length_chosen : (chosen pairs selected).length = (named pairs.length selected).card := by
  have hall : ∀ i ∈ (named pairs.length selected).sort, (pairs[i]?).isSome = true := by
    intro i hi
    rw [Finset.mem_sort, mem_named] at hi
    simpa using hi.2
  rw [chosen, validIndices_eq_sort, List.length_filterMap_eq_countP, List.countP_eq_length.mpr hall,
    Finset.length_sort]

variable [Scalar α] (m : PointingModel α) (settings : LeastSquares.Settings α)

theorem fit_eq_error (h : pairs = [] ∨ ∀ i ∈ selected, pairs.length ≤ i) :
    ∃ reason, fit pairs selected m settings = .error (.emptyInput reason) := by
  by_cases hpairs : pairs = []
  · rw [hpairs]
    exact ⟨_, rfl⟩
  · have hchosen := chosen_eq_nil (h.resolve_left hpairs)
    unfold fit
    rw [if_neg (by simpa using hpairs)]
    exact ⟨_, if_pos (List.isEmpty_iff.mpr hchosen)⟩

theorem fit_chosen (h : ∃ i ∈ selected, i < pairs.length) :
    fit pairs selected m settings = .ok (onPairs (chosen pairs selected) m settings) ∧
      fit (chosen pairs selected) (List.range (chosen pairs selected).length) m settings =
        .ok (onPairs (chosen pairs selected) m settings) := by
  obtain ⟨i, hi, hlt⟩ := h
  exact ⟨fit_eq hi hlt m settings,
    (fit_range_eq_ok_iff m _ settings).mpr ⟨chosen_ne_nil hi hlt, rfl⟩⟩

theorem fit_congr {selected' : List Nat}
    (h : ∀ i < pairs.length, i ∈ selected' ↔ i ∈ selected) :
    fit pairs selected' m settings = fit pairs selected m settings := by
  have hvalid : validIndices pairs.length selected' = validIndices pairs.length selected := by
    rw [validIndices_eq_sort, validIndices_eq_sort]
    congr 1
    ext i
    rw [mem_named, mem_named]
    exact and_congr_left (h i)
  unfold fit
  rw [hvalid]

end TelescopePointing.ModelFit
