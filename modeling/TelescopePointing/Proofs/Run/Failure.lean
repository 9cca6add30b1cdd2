import TelescopePointing.Proofs.Observation.Store
import TelescopePointing.Proofs.Run.Cost

namespace TelescopePointing

variable {σ α : Type} [Scalar α] [NumberText α]

namespace PointingRun

variable {run : PointingRun α} {store : ObservationStore α} {cause : PointingError}

theorem LoadingFault.kind (hstore : store.IsBuiltIn) (h : run.LoadingFault store cause) :
    (∃ reason, cause = .sourceUnavailable reason) ∨ ∃ reason, cause = .emptyInput reason := by
  unfold LoadingFault at h
  split at h
  next fault hfault =>
    obtain rfl := h
    exact .inl (hstore.rows_eq_error (map_eq_error hfault))
  next batch hbatch =>
    obtain ⟨rows, hrows, -, houtcome⟩ := Batch.load_eq_ok hbatch
    rw [houtcome] at h
    split at h
    next fault hfault =>
      obtain rfl := h
      rcases Batch.sweep_error hfault with hmem | hkind
      · exact .inl (hstore.row_eq_error hrows hmem)
      · exact .inl hkind
    next => exact .inr h.2

/-- Every observation carries the site of the run, which was found sound before it was loaded. -/
theorem Loading.site_check (l : run.Loading store) :
    ∀ o ∈ l.observations, o.site.check = .ok () := by
  intro o ho
  obtain ⟨rows, -, hsite, houtcome⟩ := Batch.load_eq_ok l.opened
  have hloaded := l.loaded
  rw [houtcome] at hloaded
  rw [Batch.sweep_site hloaded o ho, hsite]
  exact RunConfig.site_check l.checked

def Preparation.Requests (p : run.Preparation store) (q : FitRequest α) : Prop :=
  q = p.request ∨ ∃ all, run.analysis p.model p.request = .ok all ∧ q ∈ p.refits all

theorem Preparation.Requests.pairs_ne_nil {p : run.Preparation store} {q : FitRequest α}
    (h : p.Requests q) : q.pairs ≠ [] := by
  rcases h with rfl | ⟨all, hall, hq⟩
  · exact Preparation.pairs_ne_nil p
  · exact p.pairs_ne_nil_of_mem hall (List.mem_cons_of_mem _ hq)

variable (run store) in
def LacksFinite : Prop :=
  ∃ (p : run.Preparation store) (q : FitRequest α), p.Requests q ∧
    ∃ axis : ResidualAxis, ∃ v ∈ axis.arcseconds
      (ResidualPoint.ofPairs q.pairs (ModelFit.onPairs q.pairs p.model run.solver)),
      Scalar.isFinite v = false

theorem lacksFinite_of_analysis {p : run.Preparation store} {q : FitRequest α}
    (hq : p.Requests q) (h : run.analysis p.model q = .error cause) :
    (∃ reason, cause = .invalidConfiguration reason) ∧ run.LacksFinite store := by
  obtain ⟨hbins, -⟩ := RunConfig.of_check_eq_ok p.checked
  obtain ⟨hcause, hlacks⟩ := FitOutcome.ofFit_eq_error hq.pairs_ne_nil hbins h
  exact ⟨hcause, p, q, hq, hlacks⟩

variable (run store) in
/-- What has to be the case when a run ends with an error of some stage. -/
def Explains (sink : Sink σ α) (e : RunError) : Prop :=
  match e.stage with
  | .configuration => run.config.check run.registry = .error e.cause ∧
    ((∃ reason, e.cause = .configurationConflict reason) ∨
      (∃ reason, e.cause = .invalidConfiguration reason) ∨
      (∃ reason, e.cause = .invalidSite reason) ∨ ∃ reason, e.cause = .unknownModel reason)
  | .loading => (∃ reason, e.cause = .sourceUnavailable reason) ∨
    ∃ reason, e.cause = .emptyInput reason
  | .transform => ∃ reason, e.cause = .invalidTime reason
  | .modelFit => False
  | .projection => (∃ reason, e.cause = .invalidConfiguration reason) ∧ run.LacksFinite store
  | .output => ∃ r state, (sink.publish r state).result = .error e.cause

theorem Course.explains {sink : Sink σ α} {before after : σ} {e : RunError}
    {events : List (RunEvent α)} (hstore : store.IsBuiltIn)
    (h : run.Course store sink before (.error e) events after) :
    run.Explains store sink e := by
  cases h with
  | misconfigured h => exact ⟨h, RunConfig.check_eq_error h⟩
  | unloaded _ h => exact h.kind hstore
  | untransformed l h => exact StarPair.ofObservations_eq_error l.site_check h
  | unanalysed p h => exact lacksFinite_of_analysis (.inl rfl) h
  | @stopped all _ _ _ p rest h _ hdelivery =>
    cases hdelivery.ending with
    | refused _ r state cause _ _ _ hsink => exact ⟨r, state, hsink⟩
    | failed done q left cause hnext _ _ hanalysis =>
      have hq : q ∈ p.request :: p.refits all := by
        rw [hnext]
        exact List.mem_append_right _ List.mem_cons_self
      refine lacksFinite_of_analysis ?_ hanalysis
      rcases List.mem_cons.mp hq with rfl | hq
      · exact .inl rfl
      · exact .inr ⟨all, h, hq⟩

end PointingRun

theorem run_explains (run : PointingRun α) {store : ObservationStore α} (hstore : store.IsBuiltIn)
    (sink : Sink σ α) {s t : Session σ α} {e : RunError}
    (hrun : (run.run store sink).run s = (.error e, t)) : run.Explains store sink e := by
  obtain ⟨_, events, _, hcourse⟩ := PointingRun.course_of_run hrun
  exact hcourse.explains hstore

def fullSink : Sink Unit ℝ := ⟨fun _ s => ⟨.error (.fileFault "no space left"), s, []⟩⟩

theorem run_explains_full : letI := roundedText
    let store : ObservationStore ℝ := .ofList threeStars
    store.IsBuiltIn ∧ ∃ e t, (refitting.run store fullSink).run (.start ()) = (.error e, t) ∧
      e.stage = .output ∧ refitting.Explains store fullSink e := by
  let := roundedText
  intro store
  have hstore : store.IsBuiltIn := .inl ⟨_, rfl⟩
  obtain ⟨ready⟩ := refitting_prepared
  cases hrun : (refitting.run store fullSink).run (.start ()) with
  | mk result t =>
    cases result with
    | error e =>
      have houtput := PointingRun.run_eq_error ready hrun
      exact ⟨hstore, e, t, rfl, houtput.1, run_explains refitting hstore fullSink hrun⟩
    | ok summary =>
      obtain ⟨_, events, _, hcourse⟩ := PointingRun.course_of_run hrun
      cases hcourse with
      | completed p rest h _ _ _ hdelivery _ =>
        generalize publications rest = reports at hdelivery
        cases hdelivery with
        | taken _ hsink _ => cases hsink

end TelescopePointing
