import TelescopePointing.Proofs.Run.Course

namespace TelescopePointing

def Running.Succeeds {σ α β : Type} (P : β → Prop) (x : Running σ α β) : Prop :=
  ∀ s, ∃ b t, x.run s = (.ok b, t) ∧ P b

def Sink.TakesAll {σ α : Type} (sink : Sink σ α) : Prop :=
  ∀ r s, (sink.publish r s).result = .ok ()

namespace PointingRun

variable [NumberText ℝ] {σ : Type} {sink : Sink σ ℝ} (run : PointingRun ℝ)

omit [NumberText ℝ] in
theorem analysis_ne_error (model : PointingModel ℝ) {q : FitRequest ℝ} (hpairs : q.pairs ≠ [])
    (hbins : run.config.bins ≠ 0) (cause : PointingError) :
    run.analysis model q ≠ .error cause := by
  intro h
  obtain ⟨-, _, v, -, hv⟩ := FitOutcome.ofFit_eq_error hpairs hbins h
  cases (Scalar.real_isFinite v).symm.trans hv

variable {run} {store : ObservationStore ℝ}

theorem Loading.unique (l l' : run.Loading store) : l = l' := by
  obtain ⟨_, batch, observations, hopened, hloaded, _⟩ := l
  obtain ⟨_, batch', observations', hopened', hloaded', _⟩ := l'
  cases hopened.symm.trans hopened'
  cases hloaded.symm.trans hloaded'
  rfl

variable (ready : run.Preparation store)
include ready

/-- In exact arithmetic only the options, the observations and the sink can make a run fail. -/
theorem run_eq_error {s t : Session σ ℝ} {e : RunError}
    (hrun : (run.run store sink).run s = (.error e, t)) :
    e.stage = .output ∧ ∃ r state, (sink.publish r state).result = .error e.cause := by
  obtain ⟨_, events, _, hcourse⟩ := course_of_run hrun
  have hbins := (RunConfig.of_check_eq_ok ready.checked).1
  cases hcourse with
  | misconfigured h => cases ready.checked.symm.trans h
  | unloaded _ h =>
    simp only [LoadingFault, ready.opened, ready.loaded] at h
    exact absurd h.1 ready.nonempty
  | untransformed l h =>
    obtain rfl := l.unique ready.toLoading
    cases ready.transformed.symm.trans h
  | unanalysed p h => exact absurd h (run.analysis_ne_error p.model p.pairs_ne_nil hbins _)
  | @stopped all _ _ _ p rest h _ hdelivery =>
    cases hdelivery.ending with
    | refused _ r state cause _ _ _ hrefused => exact ⟨rfl, r, state, hrefused⟩
    | failed done q left cause hnext _ _ hfailed =>
      have hq : q ∈ p.request :: p.refits all := by
        rw [hnext]
        exact List.mem_append_right done List.mem_cons_self
      exact absurd hfailed (run.analysis_ne_error p.model (p.pairs_ne_nil_of_mem h hq) hbins cause)

theorem run_succeeds (hsink : sink.TakesAll) :
    Running.Succeeds (fun _ => True) (run.run store sink) := by
  intro s
  cases hrun : (run.run store sink).run s with
  | mk result t =>
    cases result with
    | ok summary => exact ⟨summary, t, rfl, True.intro⟩
    | error e =>
      obtain ⟨-, r, state, hrefused⟩ := run_eq_error ready hrun
      cases (hsink r state).symm.trans hrefused

end PointingRun

end TelescopePointing
