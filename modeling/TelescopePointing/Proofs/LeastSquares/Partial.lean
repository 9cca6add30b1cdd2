import TelescopePointing.Proofs.LeastSquares.Affine
import TelescopePointing.Proofs.LeastSquares.History
import TelescopePointing.Proofs.Scalar.Partial

namespace TelescopePointing

open PartialReal

namespace Scalar

theorem sum_of (xs : List ℝ) : sum (xs.map of) = of (sum xs) := by
  rw [sum, of_scientific, List.foldl_map, sum]
  exact List.foldl_hom of fun _ _ => rfl

theorem zipWith_of {op : PartialReal → PartialReal → PartialReal} {value : ℝ → ℝ → ℝ}
    (h : ∀ x y, op (of x) (of y) = of (value x y)) (xs ys : List ℝ) :
    List.zipWith op (xs.map of) (ys.map of) = (List.zipWith value xs ys).map of := by
  simp only [List.zipWith_map, h, List.map_zipWith]

theorem dot_of (xs ys : List ℝ) : dot (xs.map of) (ys.map of) = of (dot xs ys) := by
  rw [dot, zipWith_of fun _ _ => of_mul, sum_of, dot]

theorem laneSums_of (lanes xs : List ℝ) :
    laneSums (lanes.map of) (xs.map of) =
      ((laneSums lanes xs).1.map of, (laneSums lanes xs).2.map of) := by
  fun_induction laneSums lanes xs with
  | case1 lanes a b c d e f g h rest ih =>
    rw [← ih, ← zipWith_of fun _ _ => of_add]
    rfl
  | case2 lanes rest hshort =>
    rw [laneSums]
    simp only [List.map_eq_cons_iff]
    rintro _ _ _ _ _ _ _ _ _ ⟨a, _, rfl, -, b, _, rfl, -, c, _, rfl, -, d, _, rfl, -, e, _, rfl, -,
      f, _, rfl, -, g, _, rfl, -, h, last, rfl, -, -⟩
    exact hshort a b c d e f g h last rfl

theorem laneSum_of (xs : List ℝ) : laneSum (xs.map of) = of (laneSum xs) := by
  have hlanes : List.replicate 8 (0.0 : PartialReal) = (List.replicate 8 (0.0 : ℝ)).map of := by
    rw [List.map_replicate, of_scientific]
  rw [laneSum, hlanes, laneSums_of, laneSum]
  simp only [← List.map_take, ← List.map_drop, zipWith_of fun _ _ => of_add, sum_of,
    List.foldl_map]
  exact List.foldl_hom of fun _ _ => rfl

theorem laneDot_of (xs ys : List ℝ) : laneDot (xs.map of) (ys.map of) = of (laneDot xs ys) := by
  rw [laneDot, zipWith_of fun _ _ => of_mul, laneSum_of, laneDot]

theorem normSquared_of (xs : List ℝ) : normSquared (xs.map of) = of (normSquared xs) :=
  laneDot_of xs xs

theorem norm_of (xs : List ℝ) : norm (xs.map of) = of (norm xs) := by
  have hnonneg : 0 ≤ normSquared xs := normSquared_eq_dot xs ▸ dot_self_nonneg xs
  rw [norm, normSquared_of, of_sqrt hnonneg, norm]

theorem largest_of (xs : List ℝ) : largest (xs.map of) = of (largest xs) := by
  cases xs with
  | nil => rfl
  | cons x xs =>
    rw [List.map_cons, largest, List.foldl_map, largest]
    refine List.foldl_hom of fun a b => ?_
    simp only [of_le, apply_ite of]

end Scalar

open Scalar

namespace LowerColumns

def lift : LowerColumns ℝ → LowerColumns PartialReal
  | empty => empty
  | column d below rest => column (of d) (below.map of) rest.lift

theorem gram_lift (columns : List (List ℝ)) :
    gram (columns.map (List.map of)) = (gram columns).lift := by
  induction columns with
  | nil => rfl
  | cons c cs ih =>
    simp only [List.map_cons, gram, lift, dot_of, ih, List.map_map, Function.comp_def]

theorem diagonal_lift (m : LowerColumns ℝ) : m.lift.diagonal = m.diagonal.map of := by
  induction m with
  | empty => rfl
  | column d below rest ih => rw [lift, diagonal, diagonal, ih, List.map_cons]

theorem addDiagonal_lift (m : LowerColumns ℝ) (xs : List ℝ) :
    m.lift.addDiagonal (xs.map of) = (m.addDiagonal xs).lift := by
  induction m generalizing xs with
  | empty => rfl
  | column d below rest ih =>
    cases xs with
    | nil => rfl
    | cons x xs => rw [lift, List.map_cons, addDiagonal, ih, of_add]; rfl

theorem subtractSquare_lift (m : LowerColumns ℝ) (xs : List ℝ) :
    m.lift.subtractSquare (xs.map of) = (m.subtractSquare xs).lift := by
  induction m generalizing xs with
  | empty => rfl
  | column d below rest ih =>
    cases xs with
    | nil => rfl
    | cons x xs =>
      have hbelow : ∀ b y : ℝ, of b - of y * of x = of (b - y * x) := fun _ _ => rfl
      rw [lift, List.map_cons, subtractSquare, ih, zipWith_of hbelow, of_mul, of_sub]
      rfl

/-- The elimination takes roots of positive pivots only, and divides by nothing else. -/
theorem cholesky?_lift (m : LowerColumns ℝ) : m.lift.cholesky? = m.cholesky?.map lift := by
  induction m using elimination_induction with
  | empty => simp [lift]
  | column d below rest ih =>
    rw [lift, cholesky?_column, cholesky?_column]
    simp only [of_scientific, of_lt]
    by_cases hd : 0.0 < d
    · have hpos : 0 < d := by rwa [real_zero] at hd
      have hroot : sqrt d ≠ 0 := (Real.sqrt_pos.mpr hpos).ne'
      have hscaled : (below.map of).map (· / of (sqrt d)) = (below.map (· / sqrt d)).map of := by
        simp only [List.map_map, Function.comp_def, of_div hroot]
      rw [if_pos hd, if_pos hd, of_sqrt hpos.le, hscaled, subtractSquare_lift, ih, Option.map_map,
        Option.map_map]
      rfl
    · rw [if_neg hd, if_neg hd, Option.map_none]

theorem diagonal_pos_of_cholesky? {m factor : LowerColumns ℝ} (h : m.cholesky? = some factor) :
    ∀ d ∈ factor.diagonal, 0 < d := by
  induction m using elimination_induction generalizing factor with
  | empty =>
    obtain rfl : empty = factor := by simpa using h
    simp [diagonal]
  | column d below rest ih =>
    rw [cholesky?_column] at h
    by_cases hd : 0.0 < d
    · rw [if_pos hd] at h
      obtain ⟨tail, htail, rfl⟩ := Option.map_eq_some_iff.mp h
      rw [real_zero] at hd
      rw [diagonal, List.forall_mem_cons]
      exact ⟨Real.sqrt_pos.mpr hd, ih _ htail⟩
    · rw [if_neg hd] at h
      cases h

section Substitution

variable {factor : LowerColumns ℝ} (h : ∀ d ∈ factor.diagonal, 0 < d)
include h

theorem forward_lift (ys : List ℝ) :
    factor.lift.forward (ys.map of) = (factor.forward ys).map of := by
  induction factor generalizing ys with
  | empty => rfl
  | column d below rest ih =>
    rw [diagonal, List.forall_mem_cons] at h
    cases ys with
    | nil => rfl
    | cons y ys =>
      have hrow : ∀ z b : ℝ, of z - of (y / d) * of b = of (z - y / d * b) := fun _ _ => rfl
      rw [lift, List.map_cons, forward, of_div h.1.ne', zipWith_of hrow, ih h.2]
      rfl

theorem backward_lift (ys : List ℝ) :
    factor.lift.backward (ys.map of) = (factor.backward ys).map of := by
  induction factor generalizing ys with
  | empty => rfl
  | column d below rest ih =>
    rw [diagonal, List.forall_mem_cons] at h
    cases ys with
    | nil => rfl
    | cons y ys =>
      rw [lift, List.map_cons, backward, ih h.2, laneDot_of, of_sub, of_div h.1.ne']
      rfl

theorem solveFactored_lift (ys : List ℝ) :
    factor.lift.solveFactored (ys.map of) = (factor.solveFactored ys).map of := by
  rw [solveFactored, forward_lift h, backward_lift h, solveFactored]

end Substitution

end LowerColumns

namespace LeastSquares

open LowerColumns

noncomputable def Settings.lift (s : Settings ℝ) : Settings PartialReal where
  maxIterations := s.maxIterations
  costTolerance := of s.costTolerance
  stepTolerance := of s.stepTolerance
  gradientTolerance := of s.gradientTolerance
  initialDamping := of s.initialDamping
  dampingUp := of s.dampingUp
  dampingDown := of s.dampingDown
  maxDamping := of s.maxDamping
  differenceStep := of s.differenceStep

def Point.lift (x : Point ℝ) : Point PartialReal :=
  ⟨x.parameters.map of, x.residuals.map of, of x.cost⟩

def State.lift (s : State ℝ) : State PartialReal := ⟨s.point.lift, of s.damping⟩

def Result.lift (r : Result ℝ) : Result PartialReal :=
  ⟨r.parameters.map of, of r.cost, r.iterations, r.status⟩

def Trial.lift : Trial ℝ → Trial PartialReal
  | flat => flat
  | singular => singular
  | candidate step next => candidate (step.map of) next.lift

def Progress.lift : Progress ℝ → Progress PartialReal
  | go s => go s.lift
  | stop x status => stop x.lift status

/-- A map that has a value on all parameters. -/
def Residuals.Extends (g : Residuals PartialReal) (f : Residuals ℝ) : Prop :=
  ∀ p, g (p.map of) = (f p).map of

section Columns

variable (columns : List (List ℝ))

theorem gradient_lift (r : List ℝ) :
    gradient (columns.map (List.map of)) (r.map of) = (gradient columns r).map of := by
  simp only [gradient, List.map_map, Function.comp_def, dot_of]

theorem scaling_lift (diagonal : List ℝ) :
    scaling (diagonal.map of) = (scaling diagonal).map of := by
  simp only [scaling, largest_of, of_scientific, of_mul, List.map_map, Function.comp_def, of_max]

theorem damped_lift (damping : ℝ) :
    damped (columns.map (List.map of)) (of damping) = (damped columns damping).lift := by
  have hweights := scaling_lift (gram columns).diagonal
  simp only [damped, gram_lift, diagonal_lift, hweights, ← addDiagonal_lift, List.map_map,
    Function.comp_def, of_mul]

theorem proposal?_lift (g : List ℝ) (damping : ℝ) :
    proposal? (columns.map (List.map of)) (g.map of) (of damping) =
      (proposal? columns g damping).map (List.map of) := by
  rw [proposal?, damped_lift, cholesky?_lift, proposal?]
  cases hfactor : (damped columns damping).cholesky? with
  | none => rfl
  | some factor =>
    simp only [Option.map_some, solveFactored_lift (diagonal_pos_of_cholesky? hfactor),
      List.map_map, Function.comp_def, of_neg]

end Columns

section Search

variable {f : Residuals ℝ} {g : Residuals PartialReal} (hg : g.Extends f) {settings : Settings ℝ}

include hg in
theorem jacobian_lift {step : ℝ} (hstep : 0 < step) (p : List ℝ) :
    jacobian g (p.map of) (of step) = (jacobian f p step).map (List.map of) := by
  refine List.ext_getElem (by simp) fun j hj hj' => ?_
  have hwidth : ∀ x : ℝ, 2.0 * (step * Scalar.max (Scalar.abs x) 1.0) ≠ 0 := by
    intro x
    rw [real_two]
    exact (mul_pos two_pos (differenceStep_pos hstep x)).ne'
  simp only [jacobian, List.getElem_map, List.getElem_zipIdx, Nat.zero_add, jacobianColumn,
    of_abs, of_scientific, of_max, of_mul, of_add, of_sub, ← List.map_set, hg _]
  exact zipWith_of (fun _ _ => by rw [of_sub, of_div (hwidth _)]) _ _

include hg in
theorem at_lift (p : List ℝ) : Point.at g (p.map of) = (Point.at f p).lift := by
  simp only [Point.at, Point.lift, hg p, normSquared_of]

include hg in
theorem trial_lift (hdifference : 0 < settings.differenceStep) (s : State ℝ) :
    trial g settings.lift s.lift = (trial f settings s).lift := by
  have hjacobian := jacobian_lift hg hdifference s.point.parameters
  have habs : ∀ xs : List ℝ, (xs.map of).map Scalar.abs = (xs.map Scalar.abs).map of := by
    simp only [List.map_map, Function.comp_def, of_abs, implies_true]
  simp only [trial, State.lift, Point.lift, Settings.lift, hjacobian, gradient_lift, habs,
    largest_of, of_le, proposal?_lift]
  split
  · rfl
  · cases proposal? (jacobian f s.point.parameters settings.differenceStep)
        (gradient (jacobian f s.point.parameters settings.differenceStep) s.point.residuals)
        s.damping with
    | none => rfl
    | some step =>
      simp only [Option.map_some, zipWith_of fun _ _ => of_add, at_lift hg]
      rfl

theorem isSmallStep_lift (step p : List ℝ) :
    isSmallStep settings.lift (step.map of) (p.map of) = isSmallStep settings step p := by
  simp only [isSmallStep, Settings.lift, norm_of, of_add, of_mul, of_le]

theorem improves_lift (x y : Point ℝ) : improves x.lift y.lift = improves x y := by
  simp only [improves, Point.lift, of_isFinite, real_isFinite, of_lt]

theorem raiseDamping_lift (s : State ℝ) :
    raiseDamping settings.lift s.lift = (raiseDamping settings s).lift := by
  simp only [raiseDamping, State.lift, Settings.lift, of_mul, of_lt]
  split <;> rfl

theorem accept_lift {s : State ℝ} (hcost : s.point.cost ≠ 0) (step : List ℝ) (next : Point ℝ) :
    accept settings.lift s.lift (step.map of) next.lift = (accept settings s step next).lift := by
  have hsmall : isSmallStep settings.lift (step.map of) s.lift.point.parameters =
      isSmallStep settings step s.point.parameters := isSmallStep_lift step _
  simp only [accept, hsmall]
  simp only [State.lift, Point.lift, Settings.lift, of_sub, of_div hcost, of_scientific, of_beq,
    of_le, of_mul, of_max]
  split <;> rfl

/-- A gain is relative to a cost that some point undercuts, so it is relative to a positive one. -/
theorem cost_pos_of_improves {p : List ℝ} {y : Point ℝ} (h : improves (.at f p) y = true) :
    0 < y.cost := by
  have hnonneg : 0 ≤ (Point.at f p).cost := by
    rw [Point.at, normSquared_eq_dot]
    exact dot_self_nonneg _
  exact hnonneg.trans_lt ((improves_iff _ _).mp h).2

include hg

theorem advance_lift (hdifference : 0 < settings.differenceStep) (s : State ℝ) :
    advance g settings.lift s.lift = (advance f settings s).lift := by
  rw [advance, trial_lift hg hdifference, advance]
  cases htrial : trial f settings s with
  | flat => rfl
  | singular => exact raiseDamping_lift s
  | candidate step next =>
    have himproves : improves next.lift s.lift.point = improves next s.point :=
      improves_lift next s.point
    have hsmall : isSmallStep settings.lift (step.map of) s.lift.point.parameters =
        isSmallStep settings step s.point.parameters := isSmallStep_lift step _
    simp only [Trial.lift]
    rw [himproves, hsmall, raiseDamping_lift]
    by_cases hlower : improves next s.point = true
    · have hnext := (trial_candidate htrial).2
      have hcost : 0 < s.point.cost := cost_pos_of_improves (hnext ▸ hlower)
      rw [if_pos hlower, if_pos hlower, accept_lift hcost.ne']
    · rw [if_neg hlower, if_neg hlower]
      split <;> rfl

theorem iterate_lift (hdifference : 0 < settings.differenceStep) (budget done : Nat)
    (s : State ℝ) :
    iterate g settings.lift budget done s.lift = (iterate f settings budget done s).lift := by
  induction budget generalizing done s with
  | zero => rfl
  | succ budget ih =>
    rw [iterate, advance_lift hg hdifference, iterate]
    cases advance f settings s with
    | stop x status => rfl
    | go next => exact ih (done + 1) next

/-- Every operation of a search has a value, if the residuals have one. -/
theorem minimize_lift (hdifference : 0 < settings.differenceStep) (initial : List ℝ) :
    minimize g (initial.map of) settings.lift = (minimize f initial settings).lift := by
  have hcost : (Point.at f initial).lift.cost = of (Point.at f initial).cost := rfl
  simp only [minimize, at_lift hg, hcost, of_scientific, of_beq, List.isEmpty_map]
  split
  · rfl
  · exact iterate_lift hg hdifference settings.maxIterations 0
      ⟨.at f initial, settings.initialDamping⟩

end Search

end LeastSquares

end TelescopePointing
