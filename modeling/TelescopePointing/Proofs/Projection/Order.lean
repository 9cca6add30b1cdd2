import TelescopePointing.Projection.Gaussian
import TelescopePointing.Proofs.Scalar.Real

namespace TelescopePointing

theorem Histogram.ofValues_perm {values values' : List ℝ} (h : values.Perm values') (low high : ℝ)
    (bins : Nat) : ofValues values' low high bins = ofValues values low high bins := by
  have hcount : ∀ width : ℝ, ∀ i, (values'.map (bin low width bins)).count i =
      (values.map (bin low width bins)).count i :=
    fun width i => ((h.map _).count_eq i).symm
  simp only [ofValues, hcount]

namespace ProjectionFit

theorem precedes_eq (x y : ℝ) : precedes x y = decide (x < y) := by
  by_cases h : x = y <;> simp [precedes, h]

theorem lowest_eq (v : ℝ) (values : List ℝ) : some (lowest v values) = (v :: values).min? := by
  have hmin : (fun a b : ℝ => if precedes b a then b else a) = min := by
    funext a b
    simp only [precedes_eq, decide_eq_true_eq, min_def, ← not_le, ite_not]
  rw [lowest, hmin, List.min?_cons']

theorem highest_eq (v : ℝ) (values : List ℝ) : some (highest v values) = (v :: values).max? := by
  have hmax : (fun a b : ℝ => if precedes a b then b else a) = max := by
    funext a b
    rw [max_comm]
    simp only [precedes_eq, decide_eq_true_eq, max_def, ← not_le, ite_not]
  rw [highest, hmax, List.max?_cons']

theorem lowest_spec (v : ℝ) (values : List ℝ) :
    lowest v values ∈ v :: values ∧ ∀ x ∈ v :: values, lowest v values ≤ x :=
  List.min?_eq_some_iff.mp (lowest_eq v values).symm

theorem highest_spec (v : ℝ) (values : List ℝ) :
    highest v values ∈ v :: values ∧ ∀ x ∈ v :: values, x ≤ highest v values :=
  List.max?_eq_some_iff.mp (highest_eq v values).symm

section Values

variable {v : ℝ} {rest : List ℝ} {bins : Nat} (hbins : bins ≠ 0)
include hbins

theorem ofValues_of_flat (hflat : highest v rest = lowest v rest) :
    ofValues (v :: rest) bins = .ok ⟨lowest v rest, 0, rest.length + 1, .converged⟩ := by
  simp [ofValues, hbins, hflat, Scalar.real_ofNat]

theorem ofValues_of_lt (hrange : lowest v rest < highest v rest) : ofValues (v :: rest) bins =
    (Histogram.ofValues (v :: rest) (lowest v rest) (highest v rest) bins).map ofHistogram := by
  simp [ofValues, hbins, sub_eq_zero, hrange.ne']

end Values

section Perm

variable {v v' : ℝ} {rest rest' : List ℝ} (h : (v :: rest).Perm (v' :: rest'))
include h

theorem lowest_perm : lowest v' rest' = lowest v rest := by
  obtain ⟨hmem, hle⟩ := lowest_spec v rest
  obtain ⟨hmem', hle'⟩ := lowest_spec v' rest'
  exact le_antisymm (hle' _ (h.mem_iff.mp hmem)) (hle _ (h.mem_iff.mpr hmem'))

theorem highest_perm : highest v' rest' = highest v rest := by
  obtain ⟨hmem, hle⟩ := highest_spec v rest
  obtain ⟨hmem', hle'⟩ := highest_spec v' rest'
  exact le_antisymm (hle _ (h.mem_iff.mpr hmem')) (hle' _ (h.mem_iff.mp hmem))

end Perm

theorem ofValues_perm {values values' : List ℝ} (h : values.Perm values') (bins : Nat) :
    ofValues values' bins = ofValues values bins := by
  cases values with
  | nil => rw [← h.nil_eq]
  | cons v rest =>
    cases values' with
    | nil => cases h.eq_nil
    | cons v' rest' =>
      simp only [ofValues, ← h.any_eq, lowest_perm h, highest_perm h, ← h.length_eq,
        Histogram.ofValues_perm h]

end ProjectionFit

end TelescopePointing
