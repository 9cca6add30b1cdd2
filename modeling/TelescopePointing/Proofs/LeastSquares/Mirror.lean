import TelescopePointing.Proofs.LeastSquares.Reflection
import TelescopePointing.Proofs.LeastSquares.History

namespace TelescopePointing.LeastSquares

open Scalar LowerColumns

structure Rearrangement (m : Nat) where
  apply : List ℝ → List ℝ
  zipWith : ∀ (F : ℝ → ℝ → ℝ) {a b : List ℝ}, a.length = m → b.length = m →
    apply (List.zipWith F a b) = List.zipWith F (apply a) (apply b)
  sum : ∀ {a : List ℝ}, a.length = m → (apply a).sum = a.sum

namespace Rearrangement

def keep (m : Nat) : Rearrangement m := ⟨id, fun _ _ _ _ _ => rfl, fun _ => rfl⟩

variable {m : Nat} (order : Rearrangement m)

theorem map (F : ℝ → ℝ) {a : List ℝ} (h : a.length = m) :
    order.apply (a.map F) = (order.apply a).map F := by
  have hself : ∀ b : List ℝ, b.map F = List.zipWith (fun x _ => F x) b b := fun b => by
    rw [List.zipWith_self]
  rw [hself, hself, order.zipWith _ h h]

theorem dot {a b : List ℝ} (ha : a.length = m) (hb : b.length = m) :
    Scalar.dot (order.apply a) (order.apply b) = Scalar.dot a b := by
  rw [Scalar.dot, Scalar.dot, ← order.zipWith _ ha hb, real_sum, real_sum,
    order.sum (by simp [ha, hb])]

end Rearrangement

/-- The second map is the first one with some parameters turned round and its residuals
rearranged. -/
structure Mirrors {m : Nat} (signs : List ℝ) (order : Rearrangement m) (f g : Residuals ℝ) :
    Prop where
  areSigns : AreSigns signs
  length : ∀ p, p.length = signs.length → (f p).length = m
  value : ∀ p, p.length = signs.length → g (reflect signs p) = order.apply (f p)

section Mirror

variable {m : Nat} (signs : List ℝ) (order : Rearrangement m)

noncomputable def Point.mirror (x : Point ℝ) : Point ℝ :=
  ⟨reflect signs x.parameters, order.apply x.residuals, x.cost⟩

noncomputable def State.mirror (s : State ℝ) : State ℝ := ⟨s.point.mirror signs order, s.damping⟩

noncomputable def Trial.mirror : Trial ℝ → Trial ℝ
  | flat => flat
  | singular => singular
  | candidate step next => candidate (reflect signs step) (next.mirror signs order)

noncomputable def Progress.mirror : Progress ℝ → Progress ℝ
  | go s => go (s.mirror signs order)
  | stop x status => stop (x.mirror signs order) status

noncomputable def Result.mirror (r : Result ℝ) : Result ℝ :=
  { r with parameters := reflect signs r.parameters }

noncomputable def mirrorColumns (columns : List (List ℝ)) : List (List ℝ) :=
  List.zipWith (fun s c => (order.apply c).map (s * ·)) signs columns

end Mirror

variable {m : Nat} {signs : List ℝ} {order : Rearrangement m} {f g : Residuals ℝ}

theorem Mirrors.at_reflect (h : Mirrors signs order f g) {p : List ℝ}
    (hp : p.length = signs.length) :
    Point.at g (reflect signs p) = (Point.at f p).mirror signs order := by
  simp only [Point.at, Point.mirror, h.value p hp, normSquared_eq_dot,
    order.dot (h.length p hp) (h.length p hp)]

theorem length_jacobianColumn (h : Mirrors signs order f g) {p : List ℝ}
    (hp : p.length = signs.length) (step : ℝ) (j : Nat) (x : ℝ) :
    (jacobianColumn f p step j x).length = m := by
  simp [jacobianColumn, h.length, hp]

/-- Turning a parameter round exchanges the two ends of its difference. -/
theorem jacobianColumn_mirror (h : Mirrors signs order f g) {p : List ℝ}
    (hp : p.length = signs.length) (step : ℝ) {j : Nat} (hj : j < signs.length) (x : ℝ) :
    jacobianColumn g (reflect signs p) step j (signs[j] * x) =
      (order.apply (jacobianColumn f p step j x)).map (signs[j] * ·) := by
  have hs := h.areSigns signs[j] (List.getElem_mem hj)
  simp only [jacobianColumn, abs_sign_mul hs, real_two]
  generalize step * Scalar.max (Scalar.abs x) 1.0 = d
  have hend : ∀ e, g ((reflect signs p).set j (signs[j] * x + e)) =
      order.apply (f (p.set j (x + signs[j] * e))) := by
    intro e
    have he : signs[j] * x + e = signs[j] * (x + signs[j] * e) := by linear_combination -e * hs
    rw [he, reflect_set signs p j hj, h.value _ (by simpa using hp)]
  have hlen : ∀ y, (f (p.set j y)).length = m := fun y => h.length _ (by simpa using hp)
  have hminus : signs[j] * x - d = signs[j] * x + -d := sub_eq_add_neg _ _
  rw [hminus, hend, hend, ← order.zipWith _ (hlen _) (hlen _), ← order.map _ (by simp [hlen])]
  refine congrArg order.apply ?_
  rcases mul_self_eq_one_iff.mp hs with hone | hone
  · simp only [hone, one_mul, ← sub_eq_add_neg, List.map_id']
  · rw [hone, List.map_zipWith, List.zipWith_comm]
    simp only [neg_mul, one_mul, neg_neg, ← sub_eq_add_neg]
    refine congrArg (fun F => List.zipWith F _ _) ?_
    funext a b
    ring

theorem jacobian_mirror (h : Mirrors signs order f g) {p : List ℝ} (hp : p.length = signs.length)
    (step : ℝ) :
    jacobian g (reflect signs p) step = mirrorColumns signs order (jacobian f p step) := by
  refine List.ext_getElem (by simp [mirrorColumns, length_reflect hp, hp]) fun j hj _ => ?_
  have hjs : j < signs.length := by simpa [length_reflect hp] using hj
  simp only [jacobian, mirrorColumns, List.getElem_map, List.getElem_zipWith,
    List.getElem_zipIdx, Nat.zero_add]
  rw [← jacobianColumn_mirror h hp step hjs]
  simp only [reflect, List.getElem_zipWith]

section Columns

variable {columns : List (List ℝ)}

theorem gradient_mirror (hl : columns.length = signs.length) (hm : ∀ c ∈ columns, c.length = m)
    {r : List ℝ} (hr : r.length = m) :
    gradient (mirrorColumns signs order columns) (order.apply r) =
      reflect signs (gradient columns r) := by
  refine List.ext_getElem (by simp [mirrorColumns, reflect]) fun j hj hj' => ?_
  have hjc : j < columns.length := by simpa [reflect, hl] using hj'
  simp only [gradient, mirrorColumns, reflect, List.getElem_map, List.getElem_zipWith]
  rw [dot_map_mul, order.dot (hm _ (List.getElem_mem hjc)) hr]

theorem gram_mirror (hsigns : AreSigns signs) (hl : columns.length = signs.length)
    (hm : ∀ c ∈ columns, c.length = m) :
    gram (mirrorColumns signs order columns) = (gram columns).reflected signs := by
  induction columns generalizing signs with
  | nil =>
    obtain rfl := List.length_eq_zero_iff.mp hl.symm
    rfl
  | cons c columns ih =>
    obtain ⟨s, signs, rfl⟩ := List.exists_cons_of_length_eq_add_one hl.symm
    have hs : s * s = 1 := hsigns s List.mem_cons_self
    rw [List.forall_mem_cons] at hm
    have hlen : columns.length = signs.length := by simpa using hl
    have hbelow : (mirrorColumns signs order columns).map
        (fun d => dot d ((order.apply c).map (s * ·))) =
          (reflect signs (columns.map fun d => dot d c)).map (s * ·) := by
      refine List.ext_getElem (by simp [mirrorColumns, reflect]) fun j hj _ => ?_
      have hjc : j < columns.length := by simpa [mirrorColumns, hlen] using hj
      simp only [mirrorColumns, reflect, List.getElem_map, List.getElem_zipWith]
      rw [dot_map_mul, dot_comm, dot_map_mul, dot_comm,
        order.dot (hm.2 _ (List.getElem_mem hjc)) hm.1]
      ring
    have hdiagonal : dot ((order.apply c).map (s * ·)) ((order.apply c).map (s * ·)) = dot c c := by
      rw [dot_map_mul, dot_comm, dot_map_mul, order.dot hm.1 hm.1]
      linear_combination dot c c * hs
    have hrest := ih (fun t ht => hsigns t (List.mem_cons_of_mem _ ht)) hlen hm.2
    simp only [mirrorColumns, List.zipWith_cons_cons, gram, reflected] at hrest hbelow ⊢
    rw [hrest, hbelow, hdiagonal]

theorem damped_mirror (hsigns : AreSigns signs) (hl : columns.length = signs.length)
    (hm : ∀ c ∈ columns, c.length = m) (damping : ℝ) :
    damped (mirrorColumns signs order columns) damping =
      (damped columns damping).reflected signs := by
  simp only [damped, gram_mirror hsigns hl hm, diagonal_reflected, addDiagonal_reflected]

theorem proposal?_mirror (hsigns : AreSigns signs) (hl : columns.length = signs.length)
    (hm : ∀ c ∈ columns, c.length = m) (d : List ℝ) (damping : ℝ) :
    proposal? (mirrorColumns signs order columns) (reflect signs d) damping =
      (proposal? columns d damping).map (reflect signs) := by
  have hsize : signs.length = (damped columns damping).size := by rw [size_damped, hl]
  unfold proposal?
  rw [damped_mirror hsigns hl hm, cholesky?_reflected hsigns hsize]
  cases hfactor : (damped columns damping).cholesky? with
  | none => rfl
  | some factor =>
    obtain ⟨hshape, hfull⟩ := cholesky?_shape (full_damped columns damping) hfactor
    simp only [Option.map_some]
    rw [solveFactored_reflected hsigns hfull (hsize.trans hshape.symm), reflect_neg]

end Columns

section Search

variable {settings : Settings ℝ}

theorem trial_mirror (h : Mirrors signs order f g) {s : State ℝ}
    (hs : s.point.Evaluated f signs.length) :
    trial g settings (s.mirror signs order) = (trial f settings s).mirror signs order := by
  have hp := hs.length
  have hr : s.point.residuals.length = m := by
    rw [congrArg Point.residuals hs.eq]
    exact h.length _ hp
  set columns := jacobian f s.point.parameters settings.differenceStep with hcolumns
  have hl : columns.length = signs.length := by rw [hcolumns, length_jacobian, hp]
  have hm : ∀ c ∈ columns, c.length = m := by
    intro c hc
    obtain ⟨x, _, rfl⟩ := List.mem_map.mp hc
    exact length_jacobianColumn h hp _ _ _
  have hg : (gradient columns s.point.residuals).length = signs.length := by
    rw [length_gradient, hl]
  have hjacobian : jacobian g (s.mirror signs order).point.parameters settings.differenceStep =
      mirrorColumns signs order columns := jacobian_mirror h hp _
  have hgradient : gradient (mirrorColumns signs order columns)
      (s.mirror signs order).point.residuals = reflect signs (gradient columns s.point.residuals) :=
    gradient_mirror hl hm hr
  unfold trial
  simp only [hjacobian, hgradient, map_abs_reflect h.areSigns hg, ← hcolumns]
  by_cases hflat : largest ((gradient columns s.point.residuals).map Scalar.abs) ≤
      settings.gradientTolerance
  · rw [if_pos hflat, if_pos hflat]
    rfl
  · rw [if_neg hflat, if_neg hflat, proposal?_mirror h.areSigns hl hm]
    dsimp only [State.mirror, Point.mirror]
    cases hstep : proposal? columns (gradient columns s.point.residuals) s.damping with
    | none => rfl
    | some step =>
      have hlen : step.length = signs.length := by
        rw [length_proposal (by simp) hstep, hl]
      simp only [Option.map_some, Trial.mirror, reflect_add]
      rw [h.at_reflect (by simp [hp, hlen])]

theorem isSmallStep_reflect (hsigns : AreSigns signs) {step p : List ℝ}
    (hstep : step.length = signs.length) (hp : p.length = signs.length) :
    isSmallStep settings (reflect signs step) (reflect signs p) = isSmallStep settings step p := by
  simp only [isSmallStep, norm_reflect hsigns hstep, norm_reflect hsigns hp]

theorem raiseDamping_mirror (s : State ℝ) :
    raiseDamping settings (s.mirror signs order) =
      (raiseDamping settings s).mirror signs order := by
  unfold raiseDamping
  dsimp only [State.mirror]
  split <;> rfl

theorem accept_mirror (hsigns : AreSigns signs) {s : State ℝ} {step : List ℝ}
    (hstep : step.length = signs.length) (hp : s.point.parameters.length = signs.length)
    (next : Point ℝ) :
    accept settings (s.mirror signs order) (reflect signs step) (next.mirror signs order) =
      (accept settings s step next).mirror signs order := by
  have hsmall : isSmallStep settings (reflect signs step)
      (s.mirror signs order).point.parameters = isSmallStep settings step s.point.parameters :=
    isSmallStep_reflect hsigns hstep hp
  unfold accept
  simp only [hsmall, apply_ite (Progress.mirror signs order)]
  rfl

theorem advance_mirror (h : Mirrors signs order f g) {s : State ℝ}
    (hs : s.point.Evaluated f signs.length) :
    advance g settings (s.mirror signs order) = (advance f settings s).mirror signs order := by
  unfold advance
  rw [trial_mirror h hs]
  cases htrial : trial f settings s with
  | flat => rfl
  | singular => exact raiseDamping_mirror s
  | candidate step next =>
    have hstep : step.length = signs.length := (trial_candidate htrial).1.trans hs.length
    have himproves : improves (next.mirror signs order) (s.mirror signs order).point =
        improves next s.point := rfl
    have hsmall : isSmallStep settings (reflect signs step)
        (s.mirror signs order).point.parameters = isSmallStep settings step s.point.parameters :=
      isSmallStep_reflect h.areSigns hstep hs.length
    simp only [Trial.mirror]
    rw [himproves, hsmall, accept_mirror h.areSigns hstep hs.length, raiseDamping_mirror]
    split
    · rfl
    · split <;> rfl

theorem iterate_mirror (h : Mirrors signs order f g) (budget done : Nat) {s : State ℝ}
    (hs : s.point.Evaluated f signs.length) :
    iterate g settings budget done (s.mirror signs order) =
      (iterate f settings budget done s).mirror signs := by
  induction budget generalizing done s with
  | zero => rfl
  | succ budget ih =>
    have hnext := advance_evaluated settings hs
    simp only [iterate, advance_mirror h hs]
    cases hadvance : advance f settings s with
    | stop x status => rfl
    | go next =>
      rw [hadvance] at hnext
      exact ih (done + 1) hnext

theorem minimize_mirror (h : Mirrors signs order f g) {initial : List ℝ}
    (hinitial : initial.length = signs.length) (settings : Settings ℝ) :
    minimize g (reflect signs initial) settings = (minimize f initial settings).mirror signs := by
  unfold minimize
  dsimp only
  rw [h.at_reflect hinitial, reflect_isEmpty hinitial]
  have hcost : ((Point.at f initial).mirror signs order).cost = (Point.at f initial).cost := rfl
  rw [hcost]
  split
  · rfl
  · exact iterate_mirror h settings.maxIterations 0
      (s := ⟨.at f initial, settings.initialDamping⟩) ⟨rfl, hinitial⟩

end Search

end TelescopePointing.LeastSquares
