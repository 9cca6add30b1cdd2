import TelescopePointing.Proofs.LeastSquares.Affine
import TelescopePointing.Proofs.LeastSquares.History

namespace TelescopePointing

namespace Scalar

theorem dot_squares_nonneg {ds : List ℝ} (hd : ∀ d ∈ ds, 0 < d) (us : List ℝ) :
    0 ≤ dot ds (List.zipWith (· * ·) us us) := by
  induction ds generalizing us with
  | nil => simp
  | cons d ds ih =>
    cases us with
    | nil => simp
    | cons u us =>
      rw [List.forall_mem_cons] at hd
      rw [List.zipWith_cons_cons, dot_cons]
      exact add_nonneg (mul_nonneg hd.1.le (mul_self_nonneg u)) (ih hd.2 us)

theorem dot_squares_pos {ds us : List ℝ} (hd : ∀ d ∈ ds, 0 < d) (hl : us.length = ds.length)
    (hu : ∃ u ∈ us, u ≠ 0) : 0 < dot ds (List.zipWith (· * ·) us us) := by
  induction ds generalizing us with
  | nil => simp [List.length_eq_zero_iff.mp hl] at hu
  | cons d ds ih =>
    obtain ⟨u, us, rfl⟩ := List.exists_cons_of_length_eq_add_one hl
    rw [List.forall_mem_cons] at hd
    rw [List.zipWith_cons_cons, dot_cons]
    by_cases hu0 : u = 0
    · have hrest : ∃ v ∈ us, v ≠ 0 := by simpa [hu0] using hu
      rw [hu0, mul_zero, mul_zero, zero_add]
      exact ih hd.2 (by simpa using hl) hrest
    · exact add_pos_of_pos_of_nonneg (mul_pos hd.1 (mul_self_pos.mpr hu0))
        (dot_squares_nonneg hd.2 us)

theorem dot_self_pos {xs : List ℝ} (h : ∃ x ∈ xs, x ≠ 0) : 0 < dot xs xs := by
  have hpos : 0 < dot (xs.map fun _ => 1) (List.zipWith (· * ·) xs xs) :=
    dot_squares_pos (by simp) (by simp) h
  convert hpos using 1
  clear h hpos
  induction xs with
  | nil => simp
  | cons x xs ih => simp [ih]

end Scalar

open Scalar LowerColumns

namespace LeastSquares

theorem scaling_pos (diagonal : List ℝ) : ∀ d ∈ scaling diagonal, 0 < d := by
  intro d hd
  obtain ⟨x, _, rfl⟩ := List.mem_map.mp hd
  simp only [real_max]
  exact lt_max_of_lt_right (scientific_pos (by norm_num) _)

noncomputable def dampingWeights (columns : List (List ℝ)) (damping : ℝ) : List ℝ :=
  (scaling (gram columns).diagonal).map (damping * ·)

@[simp] theorem length_dampingWeights (columns : List (List ℝ)) (damping : ℝ) :
    (dampingWeights columns damping).length = columns.length := by
  simp [dampingWeights]

theorem dampingWeights_pos (columns : List (List ℝ)) {damping : ℝ} (h : 0 < damping) :
    ∀ d ∈ dampingWeights columns damping, 0 < d := by
  intro d hd
  obtain ⟨x, hx, rfl⟩ := List.mem_map.mp hd
  exact mul_pos h (scaling_pos _ x hx)

theorem form_damped (columns : List (List ℝ)) (damping : ℝ) {us vs : List ℝ}
    (hu : us.length = columns.length) (hv : vs.length = columns.length) :
    (damped columns damping).form us vs = (gram columns).form us vs +
      dot (dampingWeights columns damping) (List.zipWith (· * ·) us vs) :=
  form_addDiagonal _ (by simp) (by simpa using hu) (by simpa using hv)

section Rows

variable {ρ : Type} (rows : List ρ) (weights : List (ρ → ℝ)) {damping : ℝ}

theorem form_gram_nonneg {us : List ℝ} (hu : us.length = weights.length) :
    0 ≤ (gram (weights.map fun w => rows.map w)).form us us := by
  rw [form_gram rows hu hu]
  exact dot_self_nonneg _

/-- The damping makes the normal matrix definite, whatever the rank of the columns. -/
theorem positiveDefinite_damped (hdamping : 0 < damping) :
    (damped (weights.map fun w => rows.map w) damping).PositiveDefinite := by
  intro us hl hu
  have hlen : us.length = weights.length := by simpa using hl
  rw [form_damped _ _ (by simpa using hlen) (by simpa using hlen)]
  have hpos := dot_squares_pos
    (dampingWeights_pos (weights.map fun w => rows.map w) hdamping) (by simpa using hlen) hu
  exact add_pos_of_nonneg_of_pos (form_gram_nonneg rows weights hlen) hpos

/-- A proposed step solves the damped equations, tested against every vector. -/
theorem proposal?_solves (hdamping : 0 < damping) {g : List ℝ} (hg : g.length = weights.length) :
    ∃ step, proposal? (weights.map fun w => rows.map w) g damping = some step ∧
      step.length = weights.length ∧ ∀ us, us.length = weights.length →
        (damped (weights.map fun w => rows.map w) damping).form us step = -dot us g := by
  have hfull := full_damped (weights.map fun w => rows.map w) damping
  obtain ⟨factor, hfactor⟩ := (positiveDefinite_damped rows weights hdamping).factors hfull
  have hproposal : proposal? (weights.map fun w => rows.map w) g damping =
      some ((factor.solveFactored g).map (- ·)) := by
    rw [proposal?, hfactor, Option.map_some]
  refine ⟨_, hproposal, ?_, fun us hus => ?_⟩
  · rw [length_proposal (by simpa using hg) hproposal, List.length_map]
  · rw [form_neg, form_solveFactored hfull hfactor (by simpa using hus) (by simpa using hg)]

theorem exists_ne_zero_of_solves {m : LowerColumns ℝ} {g step : List ℝ}
    (hsolves : m.form g step = -dot g g) (hg : ∃ y ∈ g, y ≠ 0) : ∃ u ∈ step, u ≠ 0 := by
  by_contra hzero
  push Not at hzero
  rw [m.form_eq_zero g hzero] at hsolves
  linarith [dot_self_pos hg]

end Rows

/-- What a step changes of the cost of affine residuals, by the gradient and the normal matrix. -/
theorem normSquared_add {n : Nat} {f : Residuals ℝ} {rows : List AffineForm}
    (hrows : ∀ r ∈ rows, r.slopes.length = n)
    (hf : ∀ p, p.length = n → f p = rows.map (·.value p)) {p step : List ℝ} (hp : p.length = n)
    (hstep : step.length = n) :
    normSquared (f (List.zipWith (· + ·) p step)) = normSquared (f p) +
      2 * dot step (gradient ((slopeWeights n).map fun w => rows.map w) (f p)) +
        (gram ((slopeWeights n).map fun w => rows.map w)).form step step := by
  have hmoved : rows.map (·.value (List.zipWith (· + ·) p step)) =
      rows.map fun r => r.value p + mix (slopeWeights n) step r := by
    refine List.map_congr_left fun r hr => ?_
    rw [AffineForm.value_add (hp.trans hstep.symm), mix_slopeWeights (hrows r hr)]
  rw [hf p hp, hf _ (by simp [hp, hstep]), hmoved, dot_gradient rows (by simpa using hstep),
    form_gram rows (by simpa using hstep) (by simpa using hstep)]
  simp only [normSquared_eq_dot, dot_map_map, ← List.sum_map_add, ← List.sum_map_mul_left]
  refine congrArg List.sum (List.map_congr_left fun r _ => ?_)
  ring

/-- The cost falls by what the normal matrix and, twice, the damping make of the step. -/
theorem normSquared_step {n : Nat} {f : Residuals ℝ} {rows : List AffineForm}
    (hrows : ∀ r ∈ rows, r.slopes.length = n)
    (hf : ∀ p, p.length = n → f p = rows.map (·.value p)) {p step : List ℝ} (hp : p.length = n)
    (hstep : step.length = n) {damping : ℝ}
    (hsolves : (damped ((slopeWeights n).map fun w => rows.map w) damping).form step step =
      -dot step (gradient ((slopeWeights n).map fun w => rows.map w) (f p))) :
    normSquared (f (List.zipWith (· + ·) p step)) = normSquared (f p) -
      (gram ((slopeWeights n).map fun w => rows.map w)).form step step -
        2 * dot (dampingWeights ((slopeWeights n).map fun w => rows.map w) damping)
          (List.zipWith (· * ·) step step) := by
  rw [form_damped _ _ (by simpa using hstep) (by simpa using hstep)] at hsolves
  rw [normSquared_add hrows hf hp hstep]
  linarith

structure Underway (f : Residuals ℝ) (n : Nat) (s : State ℝ) : Prop where
  evaluated : s.point.Evaluated f n
  damping : 0 < s.damping

/-- An iteration that finds its damped matrix definite and moves to a better point. -/
structure StepsDown (f : Residuals ℝ) (settings : Settings ℝ) (s : State ℝ) : Prop where
  definite :
    (damped (jacobian f s.point.parameters settings.differenceStep) s.damping).PositiveDefinite
  accepts : ∃ x, Accepts f settings s x ∧ x.cost < s.point.cost

theorem exists_ne_zero_of_steep {g : List ℝ} {tolerance : ℝ} (htolerance : 0 ≤ tolerance)
    (hsteep : ¬ largest (g.map Scalar.abs) ≤ tolerance) : ∃ y ∈ g, y ≠ 0 := by
  have hpos : 0 < largest (g.map Scalar.abs) := htolerance.trans_lt (not_le.mp hsteep)
  cases g with
  | nil => simp [largest] at hpos
  | cons y ys =>
    have hmem := largest_mem (Scalar.abs y) (ys.map Scalar.abs)
    rw [← List.map_cons] at hmem
    obtain ⟨z, hz, habs⟩ := List.mem_map.mp hmem
    rw [← habs] at hpos
    exact ⟨z, hz, abs_pos.mp hpos⟩

section Run

variable {n : Nat} {f : Residuals ℝ} {settings : Settings ℝ}

theorem Underway.stepsDown {s : State ℝ} (hs : Underway f n s) (hf : IsAffine n f)
    (htolerance : 0 ≤ settings.gradientTolerance) (hdifference : 0 < settings.differenceStep)
    (hsteep : trial f settings s ≠ .flat) : StepsDown f settings s := by
  obtain ⟨rows, hrows, hvalue⟩ := hf
  have hresiduals : s.point.residuals = f s.point.parameters :=
    congrArg Point.residuals hs.evaluated.eq
  have hcost : s.point.cost = normSquared (f s.point.parameters) :=
    congrArg Point.cost hs.evaluated.eq
  have hjacobian := jacobian_rows hvalue hs.evaluated.length hdifference
  have hdefinite := positiveDefinite_damped rows (slopeWeights n) hs.damping
  set columns := (slopeWeights n).map fun w => rows.map w with hcolumns
  set g := gradient columns (f s.point.parameters) with hg
  have hlen : columns.length = n := by simp [hcolumns]
  obtain ⟨step, hstep, hsteplen, hsolves⟩ := proposal?_solves rows
    (slopeWeights n) (g := g) hs.damping (by simp [hg, hlen])
  rw [length_slopeWeights] at hsteplen
  by_cases hgradient : largest (g.map Scalar.abs) ≤ settings.gradientTolerance
  · refine absurd ?_ hsteep
    simp only [trial, hjacobian, hresiduals]
    exact if_pos hgradient
  · have htrial : trial f settings s =
        .candidate step (.at f (List.zipWith (· + ·) s.point.parameters step)) := by
      simp only [trial, hjacobian, hresiduals]
      rw [if_neg hgradient, hstep]
    have hmoves := exists_ne_zero_of_solves (hsolves g (by simp [hg, hlen]))
      (exists_ne_zero_of_steep htolerance hgradient)
    have hfall := normSquared_step hrows hvalue hs.evaluated.length hsteplen
      (hsolves step (by simpa using hsteplen))
    have hgram : 0 ≤ (gram columns).form step step :=
      form_gram_nonneg rows (slopeWeights n) (by simpa using hsteplen)
    have hdamped := dot_squares_pos (dampingWeights_pos columns hs.damping)
      (by rw [length_dampingWeights, hsteplen, hlen]) hmoves
    have hless : (Point.at f (List.zipWith (· + ·) s.point.parameters step)).cost <
        s.point.cost := by
      rw [hcost]
      change normSquared (f (List.zipWith (· + ·) s.point.parameters step)) < _
      rw [hfall]
      linarith
    refine ⟨by rwa [hjacobian], _, ⟨by rw [candidate?, htrial], ?_⟩, hless⟩
    exact (improves_iff _ _).mpr ⟨rfl, hless⟩

theorem accept_go {s next : State ℝ} {step : List ℝ} {x : Point ℝ}
    (h : accept settings s step x = .go next) : next.point = x ∧ 0 < next.damping := by
  unfold accept at h
  dsimp only at h
  split at h
  · cases h
  · obtain rfl := Progress.go.inj h
    refine ⟨rfl, ?_⟩
    rw [real_max]
    exact lt_max_of_lt_right (scientific_pos (by norm_num) _)

theorem advance_eq_accept {s : State ℝ} (h : StepsDown f settings s) :
    ∃ step x, Accepts f settings s x ∧ advance f settings s = accept settings s step x := by
  obtain ⟨x, hx, _⟩ := h.accepts
  obtain ⟨hcandidate, himproves⟩ := hx
  cases htrial : trial f settings s with
  | flat => simp [candidate?, htrial] at hcandidate
  | singular => simp [candidate?, htrial] at hcandidate
  | candidate step y =>
    obtain rfl : y = x := by simpa [candidate?, htrial] using hcandidate
    refine ⟨step, y, ⟨hcandidate, himproves⟩, ?_⟩
    simp only [advance, htrial, himproves, if_true]

theorem Underway.advance_go {s next : State ℝ} (hs : Underway f n s)
    (hdown : trial f settings s ≠ .flat → StepsDown f settings s)
    (h : advance f settings s = .go next) : Underway f n next := by
  by_cases hflat : trial f settings s = .flat
  · simp [advance, hflat] at h
  · obtain ⟨step, x, hx, hadvance⟩ := advance_eq_accept (hdown hflat)
    obtain ⟨hpoint, hdamping⟩ := accept_go (hadvance.symm.trans h)
    have hevaluated := candidate?_evaluated hx.1
    rw [hs.evaluated.length] at hevaluated
    exact ⟨hpoint ▸ hevaluated, hdamping⟩

theorem advance_stop {s : State ℝ} {x : Point ℝ} {status : FitStatus}
    (hdown : trial f settings s ≠ .flat → StepsDown f settings s)
    (h : advance f settings s = .stop x status) : status = .converged := by
  by_cases hflat : trial f settings s = .flat
  · simp only [advance, hflat, Progress.stop.injEq] at h
    exact h.2.symm
  · obtain ⟨step, y, _, hadvance⟩ := advance_eq_accept (hdown hflat)
    exact accept_stop (hadvance.symm.trans h)

structure Descends (f : Residuals ℝ) (initial : List ℝ) (settings : Settings ℝ) : Prop where
  stepsDown : ∀ s ∈ history f initial settings, trial f settings s ≠ .flat →
    StepsDown f settings s
  status : (minimize f initial settings).status ≠ .stalled

/-- A search for the parameters of affine residuals descends: its states are under way, and such a
state is flat or steps down. -/
theorem IsAffine.descends {initial : List ℝ} (hf : IsAffine initial.length f)
    (hdamping : 0 < settings.initialDamping) (htolerance : 0 ≤ settings.gradientTolerance)
    (hdifference : 0 < settings.differenceStep) : Descends f initial settings := by
  have hdown : ∀ s, Underway f initial.length s → trial f settings s ≠ .flat →
      StepsDown f settings s := fun s hs => hs.stepsDown hf htolerance hdifference
  rcases minimize_cases f initial settings with ⟨hnone, hr⟩ | ⟨hsome, _, _, hr⟩
  · exact ⟨by simp [hnone], by simp [hr, Point.result]⟩
  · have hstart : Underway f initial.length ⟨.at f initial, settings.initialDamping⟩ :=
      ⟨⟨rfl, rfl⟩, hdamping⟩
    obtain ⟨hall, hend⟩ := examined_state (Underway f initial.length)
      (fun s next hs h => hs.advance_go (hdown s hs) h) settings.maxIterations 0 hstart
    refine ⟨fun s hs => hdown s (hall s (hsome ▸ hs)), ?_⟩
    rw [hr]
    rcases hend with hbudget | ⟨t, x, ht, hstop⟩
    · simp [hbudget]
    · rw [advance_stop (hdown t ht) hstop]
      simp

end Run

end LeastSquares

end TelescopePointing
