import TelescopePointing.Proofs.LeastSquares.Elimination

namespace TelescopePointing

namespace Scalar

theorem dot_map_map {ρ : Type} (rows : List ρ) (v w : ρ → ℝ) :
    dot (rows.map v) (rows.map w) = (rows.map fun r => v r * w r).sum := by
  induction rows with
  | nil => simp
  | cons r rows ih => simp only [List.map_cons, dot_cons, List.sum_cons, ih]

theorem dot_set (xs : List ℝ) {ys : List ℝ} {j : Nat} (hj : j < ys.length) (y : ℝ) :
    dot xs (ys.set j y) = dot xs ys + xs.getD j 0 * (y - ys[j]) := by
  induction ys generalizing xs j with
  | nil => simp at hj
  | cons z ys ih =>
    cases xs with
    | nil => simp
    | cons x xs =>
      cases j with
      | zero =>
        simp only [List.set_cons_zero, dot_cons, List.getD_cons_zero, List.getElem_cons_zero]
        ring
      | succ j =>
        simp only [List.set_cons_succ, dot_cons, List.getD_cons_succ, List.getElem_cons_succ,
          ih xs (by simpa using hj)]
        ring

end Scalar

open Scalar

noncomputable def mix {ρ : Type} (weights : List (ρ → ℝ)) (us : List ℝ) (r : ρ) : ℝ :=
  dot us (weights.map (· r))

section Mix

variable {ρ : Type} (rows : List ρ)

theorem mix_cons (w : ρ → ℝ) (weights : List (ρ → ℝ)) (u : ℝ) (us : List ℝ) (r : ρ) :
    mix (w :: weights) (u :: us) r = u * w r + mix weights us r := by
  simp [mix]

theorem dot_mix_cons (w : ρ → ℝ) (weights : List (ρ → ℝ)) (u : ℝ) (us : List ℝ) (v : ρ → ℝ) :
    dot (rows.map (mix (w :: weights) (u :: us))) (rows.map v) =
      u * dot (rows.map w) (rows.map v) + dot (rows.map (mix weights us)) (rows.map v) := by
  simp only [dot_map_map, mix_cons, add_mul, mul_assoc, List.sum_map_add, List.sum_map_mul_left]

/-- The product of factors with the gradient is that of the mixed columns with the residuals. -/
theorem dot_gradient {weights : List (ρ → ℝ)} {us : List ℝ} (h : us.length = weights.length)
    (v : ρ → ℝ) :
    dot us (LeastSquares.gradient (weights.map fun w => rows.map w) (rows.map v)) =
      dot (rows.map (mix weights us)) (rows.map v) := by
  induction weights generalizing us with
  | nil =>
    obtain rfl := List.length_eq_zero_iff.mp h
    simp [dot_map_map, mix]
  | cons w weights ih =>
    obtain ⟨u, us, rfl⟩ := List.exists_cons_of_length_eq_add_one h
    have hl : us.length = weights.length := by simpa using h
    rw [dot_mix_cons, ← ih hl]
    simp [LeastSquares.gradient]

/-- The form of the normal matrix is the product of the mixed columns. -/
theorem form_gram {weights : List (ρ → ℝ)} {us vs : List ℝ} (hu : us.length = weights.length)
    (hv : vs.length = weights.length) :
    (LowerColumns.gram (weights.map fun w => rows.map w)).form us vs =
      dot (rows.map (mix weights us)) (rows.map (mix weights vs)) := by
  induction weights generalizing us vs with
  | nil => simp [LowerColumns.gram, LowerColumns.form, dot_map_map, mix]
  | cons w weights ih =>
    obtain ⟨u, us, rfl⟩ := List.exists_cons_of_length_eq_add_one hu
    obtain ⟨v, vs, rfl⟩ := List.exists_cons_of_length_eq_add_one hv
    simp only [List.length_cons, Nat.add_right_cancel_iff] at hu hv
    have hbelow : ∀ zs : List ℝ, zs.length = weights.length →
        dot ((weights.map fun x => rows.map x).map fun d => dot d (rows.map w)) zs =
          dot (rows.map (mix weights zs)) (rows.map w) := by
      intro zs hz
      rw [dot_comm]
      exact dot_gradient rows hz w
    simp only [List.map_cons, LowerColumns.gram, LowerColumns.form]
    have hright : ∀ zs : ρ → ℝ, dot (rows.map zs) (rows.map (mix (w :: weights) (v :: vs))) =
        v * dot (rows.map zs) (rows.map w) +
          dot (rows.map zs) (rows.map (mix weights vs)) := by
      intro zs
      rw [dot_comm, dot_mix_cons, dot_comm (rows.map w), dot_comm (rows.map (mix weights vs))]
    rw [hbelow vs hv, hbelow us hu, ih hu hv, dot_mix_cons, hright, hright,
      dot_comm (rows.map w) (rows.map (mix weights vs))]
    ring

end Mix

namespace LeastSquares

structure AffineForm where
  constant : ℝ
  slopes : List ℝ

noncomputable def AffineForm.value (r : AffineForm) (p : List ℝ) : ℝ := r.constant + dot r.slopes p

def IsAffine (n : Nat) (f : Residuals ℝ) : Prop :=
  ∃ rows : List AffineForm, (∀ r ∈ rows, r.slopes.length = n) ∧
    ∀ p, p.length = n → f p = rows.map (·.value p)

def AffineForm.slope (j : Nat) (r : AffineForm) : ℝ := r.slopes.getD j 0

def slopeWeights (n : Nat) : List (AffineForm → ℝ) := (List.range n).map AffineForm.slope

@[simp] theorem length_slopeWeights (n : Nat) : (slopeWeights n).length = n := by
  simp [slopeWeights]

theorem mix_slopeWeights {r : AffineForm} {n : Nat} (h : r.slopes.length = n) (us : List ℝ) :
    mix (slopeWeights n) us r = dot r.slopes us := by
  have hs : (slopeWeights n).map (· r) = r.slopes := by
    refine List.ext_getElem (by simp [h]) fun j hj hj' => ?_
    simp [slopeWeights, AffineForm.slope, hj']
  rw [mix, hs, dot_comm]

theorem differenceStep_pos {step : ℝ} (h : 0 < step) (x : ℝ) :
    0 < step * Scalar.max (Scalar.abs x) 1.0 := by
  simp only [real_max, real_abs, real_one]
  exact mul_pos h (lt_max_of_lt_right one_pos)

theorem jacobian_rows {n : Nat} {f : Residuals ℝ} {rows : List AffineForm}
    (hf : ∀ p, p.length = n → f p = rows.map (·.value p)) {p : List ℝ} (hp : p.length = n)
    {step : ℝ} (hstep : 0 < step) :
    jacobian f p step = (slopeWeights n).map fun w => rows.map w := by
  refine List.ext_getElem (by simp [hp]) fun j hj _ => ?_
  have hjp : j < p.length := by simpa using hj
  have hh := differenceStep_pos hstep p[j]
  simp only [jacobian, List.getElem_map, List.getElem_zipIdx, Nat.zero_add, slopeWeights,
    List.getElem_range, jacobianColumn]
  generalize step * Scalar.max (Scalar.abs p[j]) 1.0 = h at hh
  rw [hf _ (by simpa using hp), hf _ (by simpa using hp), List.zipWith_map, List.zipWith_self]
  refine List.map_congr_left fun r _ => ?_
  simp only [AffineForm.value, AffineForm.slope, dot_set _ hjp, real_two]
  field_simp
  ring

theorem AffineForm.value_add {r : AffineForm} {p d : List ℝ} (h : p.length = d.length) :
    r.value (List.zipWith (· + ·) p d) = r.value p + dot r.slopes d := by
  simp only [value]
  rw [dot_comm, dot_add h, dot_comm p, dot_comm d, add_assoc]

end LeastSquares

end TelescopePointing
