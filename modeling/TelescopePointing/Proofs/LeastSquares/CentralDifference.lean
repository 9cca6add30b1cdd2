import Mathlib.Analysis.Calculus.Deriv.Polynomial
import Mathlib.RingTheory.Polynomial.SmallDegreeVieta
import Mathlib.Tactic.ComputeDegree
import TelescopePointing.Proofs.LeastSquares.Affine

namespace TelescopePointing.LeastSquares

section Probe

variable {α : Type} [Scalar α] (f : Residuals α) (step : α)

/-- Measure the column of one parameter with a probe that is changed in place: it goes forward in
that parameter, then backward from where it was, and is put back. -/
def probeColumn (x : α) (j : Nat) : StateM (List α) (List α) := do
  let h := step * Scalar.max (Scalar.abs x) 1.0
  let original := (← get).getD j x
  modify (·.set j (original + h))
  let forward := f (← get)
  modify (·.set j (original - h))
  let backward := f (← get)
  modify (·.set j original)
  return List.zipWith (fun a b => (a - b) / (2.0 * h)) forward backward

def probeColumns (p : List α) : StateM (List α) (List (List α)) :=
  p.zipIdx.mapM fun (x, j) => probeColumn f step x j

theorem run_probeColumn {p : List α} {j : Nat} (hj : j < p.length) :
    (probeColumn f step p[j] j).run p = pure (jacobianColumn f p step j p[j], p) := by
  simp [probeColumn, jacobianColumn, hj]

/-- Actions that leave a state as it was have, in any number, the values that each has at it. -/
theorem run_mapM_of_restores {σ β γ : Type} {action : β → StateM σ γ} {value : β → γ} {s : σ}
    {xs : List β} (h : ∀ x ∈ xs, (action x).run s = pure (value x, s)) :
    (xs.mapM action).run s = pure (xs.map value, s) := by
  induction xs with
  | nil => simp
  | cons x xs ih =>
    rw [List.forall_mem_cons] at h
    simp [List.mapM_cons, h.1, ih h.2]

theorem run_probeColumns (p : List α) :
    (probeColumns f step p).run p = pure (jacobian f p step, p) := by
  refine run_mapM_of_restores fun (x, j) hx => ?_
  obtain ⟨hj, hxj⟩ := List.mem_zipIdx' hx
  simpa [hxj] using run_probeColumn f step hj

theorem getElem?_jacobian {p : List α} {j : Nat} (hj : j < p.length) :
    (jacobian f p step)[j]? = some (jacobianColumn f p step j p[j]) := by
  simp [jacobian, hj]

end Probe

open Polynomial

open Scalar (real_abs real_max real_one real_two)

/-- The slope that a polynomial of the second degree has between two points is the one it has
halfway. -/
theorem centralDifference_eq_derivative {q : ℝ[X]} (hq : q.degree ≤ 2) (x : ℝ) {h : ℝ}
    (hh : h ≠ 0) : (q.eval (x + h) - q.eval (x - h)) / (2 * h) = q.derivative.eval x := by
  rw [eq_quadratic_of_degree_le_two hq]
  simp only [eval_add, eval_mul, eval_pow, eval_C, eval_X, derivative_add, derivative_C_mul,
    derivative_X_pow, derivative_X, derivative_C, eval_one, eval_zero]
  field_simp
  ring

/-- Each of `m` residuals of `n` parameters is a polynomial of at most the second degree in any
single parameter, whatever the others are. -/
structure IsQuadraticInEach (n m : Nat) (f : Residuals ℝ) : Prop where
  length : ∀ p : List ℝ, p.length = n → (f p).length = m
  polynomial : ∀ p : List ℝ, p.length = n → ∀ j < n, ∀ i < m,
    ∃ q : ℝ[X], q.degree ≤ 2 ∧ ∀ t, (f (p.set j t))[i]? = some (q.eval t)

/-- The rate at which a residual changes with one parameter while the others stay. -/
def HasPartialDeriv (f : Residuals ℝ) (i j : Nat) (rate : ℝ) (p : List ℝ) : Prop :=
  HasDerivAt (fun t => (f (p.set j t)).getD i 0) rate (p.getD j 0)

section Exact

variable {f : Residuals ℝ} {p : List ℝ} {step : ℝ} {m i j : Nat}

theorem jacobianColumn_congr {g : Residuals ℝ} {x : ℝ}
    (hforward : f (p.set j (x + step * max |x| 1)) = g (p.set j (x + step * max |x| 1)))
    (hbackward : f (p.set j (x - step * max |x| 1)) = g (p.set j (x - step * max |x| 1))) :
    jacobianColumn f p step j x = jacobianColumn g p step j x := by
  simp only [jacobianColumn, real_max, real_abs, real_one, hforward, hbackward]

theorem IsQuadraticInEach.length_jacobianColumn (hf : IsQuadraticInEach p.length m f) (x : ℝ) :
    (jacobianColumn f p step j x).length = m := by
  simp [jacobianColumn, hf.length]

/-- The width of a difference cancels, whatever the size of the parameter. -/
theorem IsQuadraticInEach.getElem?_jacobianColumn (hf : IsQuadraticInEach p.length m f)
    (hstep : 0 < step) (hi : i < m) (hj : j < p.length) :
    ∃ rate, (jacobianColumn f p step j p[j])[i]? = some rate ∧ HasPartialDeriv f i j rate p := by
  obtain ⟨q, hq, heval⟩ := hf.polynomial p rfl j hj i hi
  have hwidth := (differenceStep_pos hstep p[j]).ne'
  refine ⟨q.derivative.eval p[j], ?_, ?_⟩
  · rw [← centralDifference_eq_derivative hq p[j] hwidth]
    simp only [jacobianColumn, List.getElem?_zipWith, heval, real_two]
  · have hsection : (fun t => (f (p.set j t)).getD i 0) = fun t => q.eval t := by
      funext t
      rw [List.getD_eq_getElem?_getD, heval, Option.getD_some]
    have hparameter : p.getD j 0 = p[j] := by simp [hj]
    rw [HasPartialDeriv, hsection, hparameter]
    exact q.hasDerivAt p[j]

end Exact

/-- A probe that is moved in place for every parameter is back at the end, so each column sees the
residuals at two points that differ from the parameters in its own one only. The columns hold the
partial derivatives of all residuals that are quadratic in each parameter. -/
theorem jacobian_exact (f : Residuals ℝ) (p : List ℝ) (step : ℝ) :
    (probeColumns f step p).run p = (jacobian f p step, p) ∧
    (jacobian f p step).length = p.length ∧
    (∀ (g : Residuals ℝ) (j : Nat) (hj : j < p.length), let h := step * max |p[j]| 1
      f (p.set j (p[j] + h)) = g (p.set j (p[j] + h)) →
      f (p.set j (p[j] - h)) = g (p.set j (p[j] - h)) →
        (jacobian f p step)[j]? = (jacobian g p step)[j]?) ∧
    ∀ m, IsQuadraticInEach p.length m f → 0 < step →
      (∀ column ∈ jacobian f p step, column.length = m) ∧
      ∀ i < m, ∀ j < p.length, ∃ rate,
        (jacobian f p step)[j]?.bind (·[i]?) = some rate ∧ HasPartialDeriv f i j rate p := by
  refine ⟨run_probeColumns f step p, length_jacobian f p step, ?_, ?_⟩
  · intro g j hj h hforward hbackward
    rw [getElem?_jacobian f step hj, getElem?_jacobian g step hj,
      jacobianColumn_congr hforward hbackward]
  · intro m hf hstep
    refine ⟨fun column hcolumn => ?_, fun i hi j hj => ?_⟩
    · obtain ⟨⟨x, j⟩, _, rfl⟩ := List.mem_map.mp hcolumn
      exact hf.length_jacobianColumn x
    · rw [getElem?_jacobian f step hj, Option.bind_some]
      exact hf.getElem?_jacobianColumn hstep hi hj

def biquadratic (p : List ℝ) : List ℝ :=
  let x := p.getD 0 0
  let y := p.getD 1 0
  [x * y * (x * y) - y, 1 - x]

theorem isQuadraticInEach_biquadratic : IsQuadraticInEach 2 2 biquadratic where
  length _ _ := rfl
  polynomial p hp j hj i hi := by
    obtain ⟨x, y, rfl⟩ := List.length_eq_two.mp hp
    obtain rfl | rfl : j = 0 ∨ j = 1 := by omega
    · obtain rfl | rfl : i = 0 ∨ i = 1 := by omega
      · refine ⟨C (y * y) * X ^ 2 - C y, by compute_degree!, fun t => ?_⟩
        simp [biquadratic]
        ring
      · exact ⟨C 1 - X, by compute_degree!, fun t => by simp [biquadratic]⟩
    · obtain rfl | rfl : i = 0 ∨ i = 1 := by omega
      · refine ⟨C (x * x) * X ^ 2 - X, by compute_degree!, fun t => ?_⟩
        simp [biquadratic]
        ring
      · exact ⟨C (1 - x), by compute_degree!, fun t => by simp [biquadratic]⟩

/-- The first residual changes with the first parameter at `2 * x * y * y`, found with a difference
three times as wide as the relative step. The residuals off the line `y = 1 / 2` are not seen. -/
theorem jacobian_exact_biquadratic :
    IsQuadraticInEach 2 2 biquadratic ∧ (0 : ℝ) < 6e-6 ∧
      (jacobian biquadratic [-3, 1 / 2] 6e-6)[0]?.bind (·[0]?) = some (-3 / 2 : ℝ) ∧
      (jacobian biquadratic [-3, 1 / 2] 6e-6)[0]? =
        (jacobian (fun p => if p.getD 1 0 = 1 / 2 then biquadratic p else [])
          [-3, 1 / 2] 6e-6)[0]? := by
  have hstep : (0 : ℝ) < 6e-6 := by norm_num
  obtain ⟨_, _, hsees, hfinds⟩ := jacobian_exact biquadratic [-3, 1 / 2] 6e-6
  refine ⟨isQuadraticInEach_biquadratic, hstep, ?_, ?_⟩
  · obtain ⟨rate, hentry, hrate⟩ :=
      (hfinds 2 isQuadraticInEach_biquadratic hstep).2 0 (by decide) 0 (by decide)
    have hslope : HasPartialDeriv biquadratic 0 0 (-3 / 2) [-3, 1 / 2] := by
      have hproduct := (hasDerivAt_id' (-3 : ℝ)).mul_const (1 / 2)
      refine ((hproduct.mul hproduct).sub_const (1 / 2)).congr_deriv ?_
      norm_num
    rw [hentry, hrate.unique hslope]
  · exact hsees _ 0 (by decide) (by simp) (by simp)

end TelescopePointing.LeastSquares
