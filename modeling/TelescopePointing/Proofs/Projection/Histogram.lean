import Mathlib.Algebra.BigOperators.Group.Finset.Basic
import TelescopePointing.Proofs.Projection.Order

namespace TelescopePointing.Histogram

open Scalar

noncomputable def edge (low width : ℝ) (i : Nat) : ℝ := low + i * width

/-- A histogram of a sample counts exactly the values from one edge up to the next. The last bin
takes the largest value, too. -/
structure Exact (h : Histogram ℝ) (values : List ℝ) (low high : ℝ) (bins : Nat) : Prop where
  width_eq : h.width = (high - low) / bins
  edge_bins : edge low h.width bins = high
  length_centres : h.centres.length = bins
  length_counts : h.counts.length = bins
  /-- No value is put outside the bins. -/
  bin_lt : ∀ v ∈ values, bin low h.width bins v < h.counts.length
  inner : ∀ i, i + 1 < bins → h.counts[i]? =
    some ↑(values.countP fun v => edge low h.width i ≤ v ∧ v < edge low h.width (i + 1))
  last : h.counts[bins - 1]? =
    some ↑(values.countP fun v => edge low h.width (bins - 1) ≤ v ∧ v ≤ high)
  sum_counts : h.counts.sum = values.length
  centre : ∀ i < bins,
    h.centres[i]? = some ((edge low h.width i + edge low h.width (i + 1)) / 2)

section Bin

variable {low width v : ℝ} {bins : Nat}

theorem bin_eq_min (low width : ℝ) (bins : Nat) (v : ℝ) :
    bin low width bins v = min ⌊(v - low) / width⌋₊ (bins - 1) := rfl

theorem bin_lt_of_pos (hbins : 0 < bins) (low width v : ℝ) : bin low width bins v < bins := by
  rw [bin_eq_min]
  omega

variable (hwidth : 0 < width) (hlow : low ≤ v)
include hwidth hlow

theorem le_floor_iff (i : Nat) : i ≤ ⌊(v - low) / width⌋₊ ↔ edge low width i ≤ v := by
  rw [Nat.le_floor_iff (div_nonneg (sub_nonneg.mpr hlow) hwidth.le), le_div_iff₀ hwidth,
    le_sub_iff_add_le', edge]

theorem bin_eq_iff {i : Nat} (hi : i + 1 < bins) :
    bin low width bins v = i ↔ edge low width i ≤ v ∧ v < edge low width (i + 1) := by
  rw [← not_le, ← le_floor_iff hwidth hlow, ← le_floor_iff hwidth hlow, bin_eq_min]
  omega

/-- The last bin takes whatever is beyond its edge. -/
theorem bin_eq_last_iff :
    bin low width bins v = bins - 1 ↔ edge low width (bins - 1) ≤ v := by
  rw [← le_floor_iff hwidth hlow, bin_eq_min]
  omega

end Bin

theorem sum_count_range {places : List Nat} {n : Nat} (h : ∀ i ∈ places, i < n) :
    ((List.range n).map (places.count ·)).sum = places.length := by
  have hsum : ∑ i ∈ Finset.range n, (places : Multiset Nat).count i = places.length :=
    Multiset.sum_count_eq_card fun i hi => Finset.mem_range.mpr (h i hi)
  simp only [Multiset.coe_count] at hsum
  exact hsum

def counted {α : Type} [Scalar α] (values : List α) (low width : α) (bins : Nat) : Histogram α where
  centres := (List.range bins).map fun i => low + (ofNat i + 0.5) * width
  counts := (List.range bins).map fun i => ofNat ((values.map (bin low width bins)).count i)
  width := width

theorem ofValues_eq_counted {bins : Nat} (hbins : bins ≠ 0) (values : List ℝ) (low high : ℝ) :
    ofValues values low high bins = .ok (counted values low ((high - low) / bins) bins) := by
  simp only [ofValues, if_neg hbins, counted, real_ofNat]

section Counted

variable {bins : Nat}

@[simp] theorem width_counted (values : List ℝ) (low width : ℝ) :
    (counted values low width bins).width = width := rfl

/-- A bin counts the values with a property when these are the ones that are put into it. -/
theorem getElem?_counts {values : List ℝ} {low width : ℝ} {i : Nat} (hi : i < bins) {P : ℝ → Prop}
    [DecidablePred P] (h : ∀ v ∈ values, bin low width bins v = i ↔ P v) :
    (counted values low width bins).counts[i]? = some ↑(values.countP fun v => P v) := by
  have hcount : (values.map (bin low width bins)).count i = values.countP fun v => P v := by
    rw [List.count_eq_countP, List.countP_map]
    refine List.countP_congr fun v hv => ?_
    rw [decide_eq_true_iff, Function.comp_apply, beq_iff_eq]
    exact h v hv
  simp only [counted, List.getElem?_map, List.getElem?_range hi, Option.map_some, real_ofNat, hcount]

theorem getElem?_centres (values : List ℝ) (low width : ℝ) {i : Nat} (hi : i < bins) :
    (counted values low width bins).centres[i]? =
      some ((edge low width i + edge low width (i + 1)) / 2) := by
  have hhalf : low + (i + 0.5) * width = (edge low width i + edge low width (i + 1)) / 2 := by
    simp only [edge, Nat.cast_add, Nat.cast_one]
    ring
  simp only [counted, List.getElem?_map, List.getElem?_range hi, Option.map_some, real_ofNat, hhalf]

theorem sum_counts_counted (hbins : 0 < bins) (values : List ℝ) (low width : ℝ) :
    (counted values low width bins).counts.sum = values.length := by
  have hplaces : ∀ i ∈ values.map (bin low width bins), i < bins :=
    List.forall_mem_map.mpr fun v _ => bin_lt_of_pos hbins low width v
  simp only [counted, real_ofNat]
  rw [← List.length_map (bin low width bins), ← sum_count_range hplaces, Nat.cast_list_sum,
    List.map_map]
  rfl

end Counted

theorem counted_exact {values : List ℝ} {low high : ℝ} {bins : Nat} (hrange : low < high)
    (hbins : 0 < bins) (hvalues : ∀ v ∈ values, low ≤ v ∧ v ≤ high) :
    (counted values low ((high - low) / bins) bins).Exact values low high bins := by
  have hpositive : (0 : ℝ) < bins := Nat.cast_pos.mpr hbins
  have hwidth : 0 < (high - low) / bins := div_pos (sub_pos.mpr hrange) hpositive
  exact {
    width_eq := rfl
    edge_bins := by
      rw [edge, width_counted, mul_div_cancel₀ _ hpositive.ne']
      ring
    length_centres := by simp [counted]
    length_counts := by simp [counted]
    bin_lt := fun v _ => by simpa [counted] using bin_lt_of_pos hbins _ _ v
    inner := fun i hi => getElem?_counts (by omega) fun v hv =>
      bin_eq_iff hwidth (hvalues v hv).1 hi
    last := getElem?_counts (by omega) fun v hv =>
      (bin_eq_last_iff hwidth (hvalues v hv).1).trans (and_iff_left (hvalues v hv).2).symm
    sum_counts := sum_counts_counted hbins _ _ _
    centre := fun i hi => getElem?_centres values _ _ hi }

/-- The bins of a sample that is not flat split it between its least and its greatest value: every
value is counted in one bin, the one whose edges it lies between, in whatever order the values come.
Nothing else reaches the fit of a bell curve. -/
theorem ofValues_exact {values : List ℝ} {low high : ℝ} {bins : Nat}
    (hlow : values.min? = some low) (hhigh : values.max? = some high) (hrange : low < high)
    (hbins : 1 ≤ bins) :
    ∃ h, ofValues values low high bins = .ok h ∧ h.Exact values low high bins ∧
      (∀ values', values.Perm values' → ofValues values' low high bins = .ok h) ∧
      ProjectionFit.ofValues values bins = .ok (.ofHistogram h) := by
  have hne : bins ≠ 0 := Nat.one_le_iff_ne_zero.mp hbins
  have hcounted := ofValues_eq_counted hne values low high
  have hvalues : ∀ v ∈ values, low ≤ v ∧ v ≤ high := fun v hv =>
    ⟨(List.min?_eq_some_iff.mp hlow).2 v hv, (List.max?_eq_some_iff.mp hhigh).2 v hv⟩
  refine ⟨_, hcounted, counted_exact hrange hbins hvalues, fun values' hperm => ?_, ?_⟩
  · rw [ofValues_perm hperm, hcounted]
  · cases values with
    | nil => cases hlow
    | cons v rest =>
      obtain rfl := Option.some.inj ((ProjectionFit.lowest_eq v rest).trans hlow)
      obtain rfl := Option.some.inj ((ProjectionFit.highest_eq v rest).trans hhigh)
      rw [ProjectionFit.ofValues_of_lt hne hrange, hcounted]
      rfl

theorem ofValues_exact_halves : let values : List ℝ := [2, 0, 1, 2, 1 / 2]
    values.min? = some 0 ∧ values.max? = some 2 ∧ (0 : ℝ) < 2 ∧ 1 ≤ 2 ∧
      ∃ h, ofValues values 0 2 2 = .ok h ∧ h.counts[0]? = some 2 ∧ h.counts[1]? = some 3 ∧
        h.centres[0]? = some (1 / 2) ∧ h.centres[1]? = some (3 / 2) ∧
        ofValues values.reverse 0 2 2 = .ok h := by
  intro values
  have hmin : values.min? = some 0 := by norm_num [values, List.min?]
  have hmax : values.max? = some 2 := by norm_num [values, List.max?]
  obtain ⟨h, hh, hexact, hperm, -⟩ := ofValues_exact hmin hmax two_pos one_le_two
  have hwidth : h.width = 1 := by rw [hexact.width_eq]; norm_num
  have hinner := hexact.inner 0 one_lt_two
  have hlast := hexact.last
  have hcentre := hexact.centre
  simp only [hwidth, edge] at hinner hlast hcentre
  refine ⟨hmin, hmax, two_pos, one_le_two, h, hh, ?_, ?_, ?_, ?_,
    hperm _ (List.reverse_perm values).symm⟩
  · rw [hinner]
    norm_num [values, List.countP_cons]
  · refine hlast.trans ?_
    norm_num [values, List.countP_cons]
  · rw [hcentre 0 two_pos]
    norm_num
  · rw [hcentre 1 one_lt_two]
    norm_num

end TelescopePointing.Histogram
