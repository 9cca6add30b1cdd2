import TelescopePointing.Proofs.LeastSquares.Partial

namespace TelescopePointing

open PartialReal

namespace Scalar

theorem foldl_add_undefined {x : PartialReal} {xs : List PartialReal}
    (h : x = undefined ∨ undefined ∈ xs) : xs.foldl (· + ·) x = undefined := by
  induction xs generalizing x with
  | nil => exact h.resolve_right List.not_mem_nil
  | cons y ys ih =>
    refine ih ?_
    rcases h with rfl | h
    · exact .inl (undefined_add y)
    · rcases List.mem_cons.mp h with rfl | h
      · exact .inl (add_undefined x)
      · exact .inr h

theorem sum_undefined {xs : List PartialReal} (h : undefined ∈ xs) : sum xs = undefined :=
  foldl_add_undefined (.inr h)

section Product

variable {xs ys : List PartialReal} {k : Nat} (hx : xs[k]? = some undefined)
  (hy : ys[k]? = some undefined)
include hx hy

theorem undefined_mem_products : undefined ∈ List.zipWith (· * ·) xs ys := by
  refine List.mem_of_getElem? (i := k) ?_
  simp [List.getElem?_zipWith, hx, hy]

theorem dot_undefined : dot xs ys = undefined := sum_undefined (undefined_mem_products hx hy)

end Product

theorem undefined_mem_sums {xs ys : List PartialReal} (hl : xs.length = ys.length)
    (h : undefined ∈ xs ∨ undefined ∈ ys) : undefined ∈ List.zipWith (· + ·) xs ys := by
  rcases h with h | h <;> obtain ⟨i, hi, hvalue⟩ := List.mem_iff_getElem.mp h <;>
    exact List.mem_iff_getElem.mpr ⟨i, by simp; omega, by simp [hvalue]⟩

theorem laneSums_undefined {lanes xs : List PartialReal} (hl : lanes.length = 8)
    (h : undefined ∈ lanes ∨ undefined ∈ xs) :
    (laneSums lanes xs).1.length = 8 ∧
      (undefined ∈ (laneSums lanes xs).1 ∨ undefined ∈ (laneSums lanes xs).2) := by
  fun_induction laneSums lanes xs with
  | case1 lanes x₀ x₁ x₂ x₃ x₄ x₅ x₆ x₇ rest ih =>
    have hsplit : undefined ∈ lanes ∨
        undefined ∈ [x₀, x₁, x₂, x₃, x₄, x₅, x₆, x₇] ∨ undefined ∈ rest :=
      h.imp_right fun h => List.mem_append.mp h
    rw [← or_assoc] at hsplit
    exact ih (by simp [hl]) (hsplit.imp_left (undefined_mem_sums hl))
  | case2 lanes rest hrest => exact ⟨hl, h⟩

theorem laneSum_undefined {xs : List PartialReal} (h : undefined ∈ xs) :
    laneSum xs = undefined := by
  have hlanes : (List.replicate 8 (0.0 : PartialReal)).length = 8 := List.length_replicate
  obtain ⟨hlen, hlost⟩ := laneSums_undefined hlanes (.inr h)
  refine foldl_add_undefined (hlost.imp_left fun hlane => sum_undefined ?_)
  rw [← List.take_append_drop 4 (laneSums _ xs).1, List.mem_append] at hlane
  exact undefined_mem_sums (by rw [List.length_take, List.length_drop, hlen]; rfl) hlane

theorem largest_undefined {xs : List PartialReal} (hne : xs ≠ []) (h : ∀ x ∈ xs, x = undefined) :
    largest xs = undefined := by
  obtain ⟨x, xs, rfl⟩ := List.exists_cons_of_ne_nil hne
  exact h _ (largest_mem x xs)

end Scalar

open Scalar

namespace LeastSquares

open LowerColumns

def Residuals.Lacks (f : Residuals PartialReal) (k : Nat) : Prop :=
  ∀ p, (f p)[k]? = some undefined

section Columns

variable {k : Nat} {columns : List (List PartialReal)} (hne : columns ≠ [])
  (h : ∀ column ∈ columns, column[k]? = some undefined)

include h in
theorem gradient_undefined {r : List PartialReal} (hr : r[k]? = some undefined) :
    ∀ y ∈ gradient columns r, y = undefined := by
  intro y hy
  obtain ⟨c, hc, rfl⟩ := List.mem_map.mp hy
  exact dot_undefined (h c hc) hr

include hne h

/-- The first pivot of the normal equations is undefined, so it is not positive. -/
theorem cholesky?_undefined (damping : PartialReal) : (damped columns damping).cholesky? = none := by
  obtain ⟨c, cs, rfl⟩ := List.exists_cons_of_ne_nil hne
  have hc := h c List.mem_cons_self
  simp only [damped, gram, LowerColumns.diagonal, scaling, List.map_cons, addDiagonal,
    cholesky?_column, dot_undefined hc hc, undefined_add, not_lt_undefined, if_false]

end Columns

section Search

variable {f : Residuals PartialReal} {k : Nat} (hf : f.Lacks k)
include hf

theorem jacobian_undefined (p : List PartialReal) (step : PartialReal) :
    ∀ column ∈ jacobian f p step, column[k]? = some undefined := by
  intro c hc
  obtain ⟨⟨x, j⟩, -, rfl⟩ := List.mem_map.mp hc
  simp [jacobianColumn, List.getElem?_zipWith, hf _]

theorem at_cost_undefined (p : List PartialReal) : (Point.at f p).cost = undefined :=
  laneSum_undefined (undefined_mem_products (hf p) (hf p))

theorem advance_undefined {settings : Settings PartialReal} {s : State PartialReal}
    (hs : s.point.Evaluated f s.point.parameters.length) (hne : s.point.parameters ≠ []) :
    advance f settings s = raiseDamping settings s := by
  set columns := jacobian f s.point.parameters settings.differenceStep with hcolumns
  have hlacks : ∀ column ∈ columns, column[k]? = some undefined := jacobian_undefined hf _ _
  have hany : columns ≠ [] := by
    intro hnone
    have hlength := congrArg List.length hnone
    rw [hcolumns, length_jacobian] at hlength
    exact hne (List.length_eq_zero_iff.mp hlength)
  have hresiduals : s.point.residuals[k]? = some undefined := by
    rw [congrArg Point.residuals hs.eq]
    exact hf _
  have hsteep : ¬ largest ((gradient columns s.point.residuals).map Scalar.abs) ≤
      settings.gradientTolerance := by
    rw [largest_undefined (by simpa [gradient] using hany)]
    · exact not_undefined_le _
    · intro y hy
      obtain ⟨z, hz, rfl⟩ := List.mem_map.mp hy
      rw [gradient_undefined hlacks hresiduals z hz, abs_undefined]
  have htrial : trial f settings s = .singular := by
    simp only [trial, ← hcolumns]
    rw [if_neg hsteep, proposal?, cholesky?_undefined hany hlacks, Option.map_none]
  rw [advance, htrial]

/-- Only the damping of a state changes, until it passes its limit. -/
theorem iterate_stalls (settings : Settings ℝ) {p : List PartialReal} (hne : p ≠ []) {n : Nat}
    (budget done : Nat) (damping : ℝ) (hn : n < budget)
    (hlimit : settings.maxDamping < damping * settings.dampingUp ^ (n + 1)) :
    (iterate f settings.lift budget done ⟨.at f p, of damping⟩).status = .stalled := by
  induction budget generalizing n done damping with
  | zero => cases hn
  | succ budget ih =>
    have hadvance : advance f settings.lift ⟨.at f p, of damping⟩ =
        raiseDamping settings.lift ⟨.at f p, of damping⟩ := advance_undefined hf ⟨rfl, rfl⟩ hne
    have hlift : settings.lift.maxDamping < of damping * settings.lift.dampingUp ↔
        settings.maxDamping < damping * settings.dampingUp := Iff.rfl
    rw [iterate, hadvance, raiseDamping]
    simp only [hlift]
    by_cases hpast : settings.maxDamping < damping * settings.dampingUp
    · rw [if_pos hpast]
      rfl
    · rw [if_neg hpast]
      cases n with
      | zero => exact absurd (by simpa using hlimit) hpast
      | succ n =>
        refine ih (done + 1) (damping * settings.dampingUp) (Nat.lt_of_succ_lt_succ hn) ?_
        rwa [mul_assoc, ← pow_succ']

/-- A search in which a residual never has a value stalls, if its budget lets the damping pass the
limit. -/
theorem minimize_stalls (settings : Settings ℝ) {initial : List PartialReal} (hne : initial ≠ [])
    {n : Nat} (hn : n < settings.maxIterations)
    (hlimit : settings.maxDamping < settings.initialDamping * settings.dampingUp ^ (n + 1)) :
    (minimize f initial settings.lift).status = .stalled := by
  have hstart : ((Point.at f initial).cost == 0.0 || initial.isEmpty) = false := by
    rw [at_cost_undefined hf, undefined_beq, Bool.false_or]
    exact List.isEmpty_eq_false_iff.mpr hne
  rw [minimize]
  simp only [hstart, Bool.false_eq_true, if_false]
  exact iterate_stalls hf settings hne settings.maxIterations 0 settings.initialDamping hn hlimit

end Search

end LeastSquares

end TelescopePointing
