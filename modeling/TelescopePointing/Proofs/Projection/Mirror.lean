import TelescopePointing.Proofs.LeastSquares.Order
import TelescopePointing.Proofs.Projection.Order
import TelescopePointing.Proofs.Report.Outcome

namespace TelescopePointing

open LeastSquares Scalar

namespace Histogram

/-- No value is where two bins of a histogram over its values meet. -/
def OffEdges (values : List ℝ) (bins : Nat) : Prop :=
  ∀ low ∈ values.min?, ∀ high ∈ values.max?, low < high →
    ∀ v ∈ values, ∀ k : Nat, 0 < k → k < bins → v ≠ low + k * ((high - low) / bins)

def mirror (h : Histogram ℝ) : Histogram ℝ :=
  ⟨(h.centres.map (- ·)).reverse, h.counts.reverse, h.width⟩

/-- Off the edges, places that lie opposite in a row of bins are in opposite bins. The last place
and the first one are, too, although neither bin is open there. -/
theorem floor_mirror {t : ℝ} {bins : Nat} (hlow : 0 ≤ t) (hhigh : t ≤ bins)
    (hedge : ∀ k : Nat, 0 < k → k < bins → t ≠ k) :
    min ⌊bins - t⌋₊ (bins - 1) = bins - 1 - min ⌊t⌋₊ (bins - 1) := by
  -- The highest place counts to the last bin, the lowest one is in the first, and any other place
  -- is strictly between two edges.
  rcases hhigh.eq_or_lt with rfl | hlt
  · rw [sub_self, Nat.floor_zero, Nat.floor_natCast]
    omega
  · have hfloor : ⌊t⌋₊ < bins := (Nat.floor_lt hlow).mpr hlt
    rcases (Nat.floor_le hlow).eq_or_lt with heq | hinside
    · have hzero : ⌊t⌋₊ = 0 := by
        by_contra hne
        exact hedge ⌊t⌋₊ (Nat.pos_of_ne_zero hne) hfloor heq.symm
      rw [hzero, Nat.cast_zero] at heq
      rw [← heq, sub_zero, Nat.floor_natCast, Nat.floor_zero]
      omega
    · have hopposite : ⌊bins - t⌋₊ = bins - 1 - ⌊t⌋₊ := by
        have hnext := Nat.lt_floor_add_one t
        rw [Nat.floor_eq_iff (sub_nonneg.mpr hlt.le), Nat.cast_sub (by omega),
          Nat.cast_sub (by omega), Nat.cast_one]
        constructor <;> linarith
      rw [hopposite]
      omega

section Mirror

variable {low high : ℝ} {bins : Nat} {values : List ℝ}

theorem bin_neg (hrange : low < high) (hbins : bins ≠ 0) {v : ℝ} (hlow : low ≤ v) (hhigh : v ≤ high)
    (hedge : ∀ k : Nat, 0 < k → k < bins → v ≠ low + k * ((high - low) / bins)) :
    bin (-high) ((high - low) / bins) bins (-v) =
      bins - 1 - bin low ((high - low) / bins) bins v := by
  have hpositive : (0 : ℝ) < bins := Nat.cast_pos.mpr (Nat.pos_of_ne_zero hbins)
  have hspan : (high - low) / ((high - low) / bins) = bins :=
    div_div_cancel₀ (sub_pos.mpr hrange).ne'
  -- From here on places are measured in bins.
  set width := (high - low) / bins with hwidth
  have hwide : 0 < width := div_pos (sub_pos.mpr hrange) hpositive
  have hopposite : (-v - -high) / width = bins - (v - low) / width := by
    rw [← hspan, ← sub_div]
    ring
  have hplace : (v - low) / width ≤ bins := by
    rw [← hspan]
    gcongr
  have hmirror := floor_mirror (div_nonneg (sub_nonneg.mpr hlow) hwide.le) hplace
    fun k hk hlt heq => hedge k hk hlt (by rw [← (div_eq_iff hwide.ne').mp heq]; ring)
  rw [← hopposite] at hmirror
  exact hmirror

variable (hrange : low < high) (hbins : bins ≠ 0) (hvalues : ∀ v ∈ values, low ≤ v ∧ v ≤ high)
  (hedges : ∀ v ∈ values, ∀ k : Nat, 0 < k → k < bins → v ≠ low + k * ((high - low) / bins))
include hrange hbins hvalues hedges

theorem count_bin_neg {i : Nat} (hi : i < bins) :
    ((values.map (- ·)).map (bin (-high) ((high - low) / bins) bins)).count i =
      (values.map (bin low ((high - low) / bins) bins)).count (bins - 1 - i) := by
  simp only [List.count_eq_countP, List.countP_map]
  refine List.countP_congr fun v hv => ?_
  have hlast : bin low ((high - low) / bins) bins v ≤ bins - 1 := min_le_right _ _
  simp only [Function.comp_apply, beq_iff_eq,
    bin_neg hrange hbins (hvalues v hv).1 (hvalues v hv).2 (hedges v hv)]
  omega

theorem ofValues_neg : ofValues (values.map (- ·)) (-high) (-low) bins =
    (ofValues values low high bins).map mirror := by
  have hcount := fun i hi => count_bin_neg hrange hbins hvalues hedges (i := i) hi
  have hwidth : (-low - -high) / bins = (high - low) / bins := by ring
  have hspan : bins * ((high - low) / bins) = high - low :=
    mul_div_cancel₀ _ (Nat.cast_ne_zero.mpr hbins)
  simp only [ofValues, if_neg hbins, real_ofNat, hwidth]
  refine congrArg Except.ok ((Histogram.mk.injEq ..).mpr ⟨?_, ?_, rfl⟩)
  · refine List.ext_getElem (by simp) fun i hi _ => ?_
    have hlt : i < bins := by simpa using hi
    have hcast : ((bins - 1 - i : Nat) : ℝ) = bins - 1 - i := by
      rw [Nat.cast_sub (by omega), Nat.cast_sub (by omega), Nat.cast_one]
    simp only [List.getElem_map, List.getElem_reverse, List.getElem_range, List.length_map,
      List.length_range, hcast]
    linarith
  · refine List.ext_getElem (by simp) fun i hi _ => ?_
    have hlt : i < bins := by simpa using hi
    simp only [List.getElem_map, List.getElem_reverse, List.getElem_range, List.length_map,
      List.length_range, hcount i hlt]

end Mirror

section Fit

variable {h : Histogram ℝ} (hlength : h.centres.length = h.counts.length)
include hlength

theorem zipWith_mirror (F : ℝ → ℝ → ℝ) : List.zipWith F h.mirror.centres h.mirror.counts =
    (List.zipWith (fun x n => F (-x) n) h.centres h.counts).reverse := by
  simp only [mirror, ← List.map_reverse, List.zipWith_map_left, List.reverse_zipWith hlength]

theorem weightedSum_mirror (weight : ℝ → ℝ) :
    h.mirror.weightedSum weight = h.weightedSum fun x => weight (-x) := by
  rw [weightedSum, weightedSum, zipWith_mirror hlength, real_sum, real_sum, List.sum_reverse]

theorem weightedRms_mirror : h.mirror.weightedRms = h.weightedRms := by
  have htotal : sum h.mirror.counts = sum h.counts := by
    rw [real_sum, real_sum, mirror, List.sum_reverse]
  have hmean : h.weightedSum (fun x => id (-x)) = -h.weightedSum id := by
    simp only [weightedSum, id, neg_mul, real_sum]
    rw [List.sum_neg, List.map_zipWith]
  simp only [weightedRms, htotal, weightedSum_mirror hlength, hmean, neg_div, square_neg_sub_neg]

omit hlength in
theorem peak_mirror (h : Histogram ℝ) : h.mirror.peak = h.peak := by
  have hmax : (Scalar.max : ℝ → ℝ → ℝ) = fun x y => x ⊔ y := by
    funext x y
    exact real_max x y
  rw [peak, peak, hmax, mirror]
  exact List.Perm.foldl_eq (List.reverse_perm _) _

end Fit

end Histogram

namespace ProjectionFit

def mirror (fit : ProjectionFit ℝ) : ProjectionFit ℝ := { fit with mean := -fit.mean }

theorem bell_neg (x mean spread peak : ℝ) :
    bell (-x) (-mean) spread peak = bell x mean spread peak := by
  rw [bell, bell, square_neg_sub_neg]

section Histogram

variable {h : Histogram ℝ} (hlength : h.centres.length = h.counts.length)
include hlength

theorem residuals_mirrors :
    Mirrors [-1, 1, 1] (.reversal h.counts.length) (residuals h) (residuals h.mirror) where
  areSigns := by simp [AreSigns]
  length p hp := by
    match p, hp with
    | [mean, spread, peak], _ => simp [residuals, hlength]
  value p hp := by
    match p, hp with
    | [mean, spread, peak], _ =>
      simp only [reflect_cons, neg_mul, one_mul, residuals]
      exact (Histogram.zipWith_mirror hlength _).trans
        (by simp only [bell_neg]; rfl)

theorem start_mirror : start h.mirror = reflect [-1, 1, 1] (start h) := by
  have hwidth : h.mirror.width = h.width := rfl
  simp [start, Histogram.weightedRms_mirror hlength, Histogram.peak_mirror, reflect, hwidth]

theorem ofHistogram_mirror : ofHistogram h.mirror = (ofHistogram h).mirror := by
  have hstart : (start h).length = 3 := rfl
  have hmirror := minimize_mirror (residuals_mirrors hlength) hstart .standard
  obtain ⟨x, hx, iterations, status, hresult⟩ :=
    minimize_evaluated (residuals h) (start h) .standard
  rw [ofHistogram, ofHistogram, start_mirror hlength, hmirror, hresult]
  match hp : x.parameters, hx.length with
  | [mean, spread, peak], _ => simp [Point.result, Result.mirror, mirror, hp, reflect]

end Histogram

section Values

variable (v : ℝ) (rest : List ℝ)

theorem lowest_neg : lowest (-v) (rest.map (- ·)) = -highest v rest := by
  obtain ⟨hmem, hle⟩ := highest_spec v rest
  obtain ⟨hmem', hle'⟩ := lowest_spec (-v) (rest.map (- ·))
  rw [← List.map_cons] at hmem' hle'
  obtain ⟨x, hx, heq⟩ := List.mem_map.mp hmem'
  refine le_antisymm (hle' _ (List.mem_map_of_mem hmem)) ?_
  rw [← heq]
  exact neg_le_neg (hle x hx)

theorem highest_neg : highest (-v) (rest.map (- ·)) = -lowest v rest := by
  have hturned := lowest_neg (-v) (rest.map (- ·))
  simp only [neg_neg, List.map_map, Function.comp_def, List.map_id'] at hturned
  rw [hturned, neg_neg]

end Values

theorem ofValues_mirror {values : List ℝ} {bins : Nat} (hbins : bins ≠ 0)
    (hedges : Histogram.OffEdges values bins) :
    ofValues (values.map (- ·)) bins = (ofValues values bins).map mirror := by
  cases values with
  | nil =>
    simp only [List.map_nil, ofValues, if_neg hbins]
    rfl
  | cons v rest =>
    obtain ⟨hlow, hleast⟩ := lowest_spec v rest
    obtain ⟨hhigh, hgreatest⟩ := highest_spec v rest
    rw [List.map_cons]
    rcases (hleast _ hhigh).eq_or_lt with hflat | hrange
    · have hflat' : highest (-v) (rest.map (- ·)) = lowest (-v) (rest.map (- ·)) := by
        rw [lowest_neg, highest_neg, hflat]
      rw [ofValues_of_flat hbins hflat.symm, ofValues_of_flat hbins hflat', lowest_neg, hflat,
        List.length_map]
      rfl
    · have hrange' : lowest (-v) (rest.map (- ·)) < highest (-v) (rest.map (- ·)) := by
        rw [lowest_neg, highest_neg]
        exact neg_lt_neg hrange
      have hneg := Histogram.ofValues_neg hrange hbins
        (fun x hx => ⟨hleast x hx, hgreatest x hx⟩)
        (hedges _ (lowest_eq v rest).symm _ (highest_eq v rest).symm hrange)
      rw [List.map_cons] at hneg
      rw [ofValues_of_lt hbins hrange, ofValues_of_lt hbins hrange', lowest_neg, highest_neg, hneg,
        Histogram.ofValues, if_neg hbins]
      exact congrArg Except.ok (ofHistogram_mirror (by simp))

/-- A projection of opposite values has the opposite mean, and the rest is the same: the bins come
in the opposite order, and the search for the bell curve turns its first parameter round in every
step. Values that lie evenly about zero therefore have the mean zero. -/
theorem ofValues_map_neg {values : List ℝ} {bins : Nat} (hvalues : values ≠ []) (hbins : bins ≠ 0)
    (hedges : Histogram.OffEdges values bins) :
    ∃ fit, ofValues values bins = .ok fit ∧
      ofValues (values.map (- ·)) bins = .ok { fit with mean := -fit.mean } ∧
      ((values.map (- ·)).Perm values → fit.mean = 0) := by
  have hmirror := ofValues_mirror hbins hedges
  cases hfit : ofValues values bins with
  | error cause =>
    obtain ⟨-, v, -, hv⟩ := ofValues_eq_error hvalues hbins hfit
    cases (real_isFinite v).symm.trans hv
  | ok fit =>
    rw [hfit] at hmirror
    refine ⟨fit, rfl, hmirror, fun hperm => ?_⟩
    have hsame := ofValues_perm hperm bins
    rw [hmirror, hfit] at hsame
    have hmean : fit.mean = -fit.mean := congrArg ProjectionFit.mean (Except.ok.inj hsame)
    exact self_eq_neg.mp hmean

theorem ofValues_map_neg_four : let values : List ℝ := [-3, -1, 1, 3]
    values ≠ [] ∧ 2 ≠ 0 ∧ Histogram.OffEdges values 2 ∧
      ∃ fit, ofValues values 2 = .ok fit ∧
        ofValues (values.map (- ·)) 2 = .ok { fit with mean := -fit.mean } ∧ fit.mean = 0 := by
  intro values
  have hne : values ≠ [] := List.cons_ne_nil _ _
  have hedges : Histogram.OffEdges values 2 := by
    have hmin : values.min? = some (-3) := by norm_num [values, List.min?]
    have hmax : values.max? = some 3 := by norm_num [values, List.max?]
    intro low hlow high hhigh _ v hv k hk hlt
    obtain rfl := Option.mem_some.mp (hmin ▸ hlow)
    obtain rfl := Option.mem_some.mp (hmax ▸ hhigh)
    obtain rfl : k = 1 := by omega
    simp only [values, List.mem_cons, List.not_mem_nil, or_false] at hv
    rcases hv with rfl | rfl | rfl | rfl <;> norm_num
  obtain ⟨fit, hfit, hneg, hmean⟩ := ofValues_map_neg hne two_ne_zero hedges
  have heven : (values.map (- ·)).Perm values := by
    have hreverse : values.map (- ·) = values.reverse := by simp [values]
    rw [hreverse]
    exact List.reverse_perm values
  exact ⟨hne, two_ne_zero, hedges, fit, hfit, hneg, hmean heven⟩

end ProjectionFit

end TelescopePointing
