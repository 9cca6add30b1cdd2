import TelescopePointing.Proofs.Config.Check
import TelescopePointing.Proofs.Observation.Pairing
import TelescopePointing.Proofs.Run.Delivery
import TelescopePointing.Proofs.Run.Trace

namespace TelescopePointing

variable {σ α : Type} [Scalar α] [NumberText α]

namespace PointingRun

variable (run : PointingRun α)

def analysisRecords (model : PointingModel α) (q : FitRequest α) : List LogRecord :=
  let fitted := ModelFit.onPairs q.pairs model run.solver
  ModelFit.records (run.log.child "fit") q.pairs (List.range q.pairs.length) (.ok fitted) ++
    match run.analysis model q with
    | .ok o => o.records run.log run.config.threshold
    | .error _ => []

def loadedRecord (observations : List (Observation α)) (batch : Batch α) : LogRecord :=
  let counts := s!"({batch.read} entries read, {batch.skipped} skipped)"
  run.log.record .info s!"{observations.length} observations loaded {counts}"

/-- What a run with consistent options has at hand when it has read a store. -/
structure Loading (store : ObservationStore α) where
  checked : run.config.check run.registry = .ok ()
  batch : Batch α
  observations : List (Observation α)
  opened : Batch.load store run.config.site (some run.config.limit) run.config.mountSource
    run.log = .ok batch
  loaded : batch.outcome.observations = .ok observations
  nonempty : observations ≠ []

def LoadingFault (store : ObservationStore α) (cause : PointingError) : Prop :=
  match Batch.load store run.config.site (some run.config.limit) run.config.mountSource run.log with
  | .error fault => fault = cause
  | .ok batch =>
    match batch.outcome.observations with
    | .error fault => fault = cause
    | .ok observations => observations = [] ∧ ∃ reason, cause = .emptyInput reason

structure Preparation (store : ObservationStore α) extends run.Loading store where
  model : PointingModel α
  pairs : List (StarPair α)
  configured : run.config.pointingModel run.registry = .ok model
  transformed : StarPair.ofObservations observations run.engine run.config.frame = .ok pairs

variable {run} in
def Loading.events {store : ObservationStore α} (l : run.Loading store) : List (RunEvent α) :=
  let outcome := l.batch.outcome
  .opened store.description ::
    (Batch.openRecord store run.config.mountSource run.log :: outcome.records ++
      [run.loadedRecord l.observations outcome.batch]).map .logged

namespace Preparation

variable {run} {store : ObservationStore α} (p : run.Preparation store)

theorem pairs_ne_nil : p.pairs ≠ [] := StarPair.ofObservations_ne_nil p.transformed p.nonempty

def tag : String := s!"{p.model.tag}_{run.config.strategy.tag}"

def request : FitRequest α := ⟨p.pairs, p.tag⟩

/-- The request for a refit, if refits are asked for and the subset has stars. -/
def refit (indices : List Nat) (subset : String) : List (FitRequest α) :=
  if run.config.refitSubsets && !indices.isEmpty then
    [⟨indices.filterMap fun i => p.pairs[i]?, s!"{p.tag}_{subset}"⟩]
  else []

theorem refit_nil (subset : String) : p.refit [] subset = [] := by simp [refit]

theorem refit_cons (h : run.config.refitSubsets = true) (i : Nat) (rest : List Nat)
    (subset : String) : p.refit (i :: rest) subset =
      [⟨(i :: rest).filterMap fun i => p.pairs[i]?, s!"{p.tag}_{subset}"⟩] := by
  rw [refit, h]
  rfl

theorem refit_of_not_asked (h : run.config.refitSubsets = false) (indices : List Nat)
    (subset : String) : p.refit indices subset = [] := by
  rw [refit, h]
  rfl

def refits (all : FitOutcome α) : List (FitRequest α) :=
  p.refit all.selection.selected "selected" ++ p.refit all.selection.dropped "dropped"

/-- Everything that a run does before it reports its first outcome. -/
def preamble : List (RunEvent α) :=
  let frame := run.config.frame
  .logged (run.startRecord p.model) :: p.events ++
    (StarPair.records p.observations run.engine frame run.log (.ok p.pairs) ++
      run.analysisRecords p.model p.request).map .logged

theorem pairs_ne_nil_of_mem {all : FitOutcome α} (h : run.analysis p.model p.request = .ok all)
    {q : FitRequest α} (hq : q ∈ p.request :: p.refits all) : q.pairs ≠ [] := by
  have hrefit : ∀ {indices : List Nat} {subset : String}, (∀ i ∈ indices, i < p.pairs.length) →
      q ∈ p.refit indices subset → q.pairs ≠ [] := by
    intro indices subset hlt hq
    simp only [refit, List.mem_ite_nil_right, List.mem_singleton, Bool.and_eq_true,
      Bool.not_eq_true', List.isEmpty_eq_false_iff] at hq
    obtain ⟨⟨-, hne⟩, rfl⟩ := hq
    exact filterMap_getElem?_ne_nil hne hlt
  rcases List.mem_cons.mp hq with rfl | hq
  · exact p.pairs_ne_nil
  · rcases List.mem_append.mp hq with hq | hq
    · exact hrefit (fun i hi => run.analysis_selection h (.inl hi)) hq
    · exact hrefit (fun i hi => run.analysis_selection h (.inr hi)) hq

def summary (all : FitOutcome α) (selected dropped : Option (FitOutcome α)) : RunSummary α :=
  ⟨p.batch.outcome.batch.read, p.batch.outcome.batch.skipped, p.pairs, all, selected, dropped⟩

end Preparation

/-- The ways that a run can go from some state of its sink: its result, what it does until then, and
how it leaves the sink. -/
inductive Course (store : ObservationStore α) (sink : Sink σ α) (before : σ) :
    Except RunError (RunSummary α) → List (RunEvent α) → σ → Prop
  | misconfigured {cause} (h : run.config.check run.registry = .error cause) :
    Course store sink before (.error ⟨.configuration, cause⟩) [] before
  | unloaded {cause events} (hcheck : run.config.check run.registry = .ok ())
      (h : run.LoadingFault store cause) (hevents : publications events = []) :
    Course store sink before (.error ⟨.loading, cause⟩) events before
  | untransformed {cause events} (l : run.Loading store)
      (h : StarPair.ofObservations l.observations run.engine run.config.frame = .error cause)
      (hevents : publications events = []) :
    Course store sink before (.error ⟨.transform, cause⟩) events before
  | unanalysed {cause events} (p : run.Preparation store)
      (h : run.analysis p.model p.request = .error cause) (hevents : publications events = []) :
    Course store sink before (.error ⟨.projection, cause⟩) events before
  | stopped {all e events after} (p : run.Preparation store) (rest : List (RunEvent α))
      (h : run.analysis p.model p.request = .ok all) (hevents : events = p.preamble ++ rest)
      (hdelivery : run.Delivery p.model sink before (p.request :: p.refits all) (some e)
        (publications rest) after) :
    Course store sink before (.error e) events after
  | completed {all selected dropped events first second after} (p : run.Preparation store)
      (rest : List (RunEvent α))
      (h : run.analysis p.model p.request = .ok all) (hevents : events = p.preamble ++ rest)
      (hselected : run.Delivery p.model sink first (p.refit all.selection.selected "selected") none
        (run.deliveries selected.toList) second)
      (hdropped : run.Delivery p.model sink second (p.refit all.selection.dropped "dropped") none
        (run.deliveries dropped.toList) after)
      (hdelivery : run.Delivery p.model sink before (p.request :: p.refits all) none
        (publications rest) after)
      (hreports : publications rest = run.deliveries (all :: selected.toList ++ dropped.toList)) :
    Course store sink before (.ok (p.summary all selected dropped)) events after

variable {run} in
theorem Preparation.analysis_of_refit {store : ObservationStore α} (p : run.Preparation store)
    {sink : Sink σ α} {state last : σ} {indices : List Nat} {subset : String}
    {answer : Option (FitOutcome α)}
    (h : run.Delivery p.model sink state (p.refit indices subset) none
      (run.deliveries answer.toList) last) {o : FitOutcome α} (ho : o ∈ answer) :
    run.analysis p.model
      ⟨indices.filterMap fun i => p.pairs[i]?, s!"{p.tag}_{subset}"⟩ = .ok o := by
  obtain rfl := ho
  have hreports := h.reports_all
  cases hrequests : p.refit indices subset with
  | nil =>
    rw [hrequests] at hreports
    cases hreports
  | cons q rest =>
    have hq : q ∈ p.refit indices subset := by simp [hrequests]
    rw [hrequests] at hreports
    obtain ⟨o', ho', heq⟩ := (List.forall₂_cons.mp hreports).1
    obtain rfl : o = o' := congrArg Report.toFitOutcome heq
    simp only [refit, List.mem_ite_nil_right, List.mem_singleton] at hq
    rw [← hq.2]
    exact ho'

open Running

section Loading

variable (store : ObservationStore α) (before : σ)

theorem loadObservations_traces (hcheck : run.config.check run.registry = .ok ()) :
    Traces before (fun result events after => after = before ∧
      match result with
      | .ok (observations, batch) => ∃ l : run.Loading store,
          l.observations = observations ∧ l.batch.outcome.batch = batch ∧ events = l.events
      | .error e => e.stage = .loading ∧ run.LoadingFault store e.cause ∧ publications events = [])
      (run.loadObservations store run.config.site) := by
  unfold loadObservations
  dsimp only
  refine .opened_bind _ (.attempt_bind _ _ (fun batch hopened => ?_) fun cause hcause => ?_)
  · refine .logged_bind _ (.logged_bind _ (.attempt_bind _ _ (fun observations hloaded => ?_)
      fun cause hcause => ?_))
    · by_cases hempty : observations = []
      · rw [hempty] at hloaded ⊢
        exact .throw ⟨rfl, rfl, by simp [LoadingFault, hopened, hloaded], by simp⟩
      · rw [if_neg (by simpa using hempty)]
        refine .logged_bind _ (.pure ⟨rfl, ⟨hcheck, batch, observations, hopened, hloaded, hempty⟩,
          rfl, rfl, ?_⟩)
        simp [Loading.events, loadedRecord]
    · exact ⟨rfl, rfl, by simp [LoadingFault, hopened, hcause], by simp⟩
  · exact ⟨rfl, rfl, by simp [LoadingFault, hcause], by simp⟩

end Loading

section Fitting

variable {model : PointingModel α} (before : σ)

theorem analyse_traces {q : FitRequest α} (hpairs : q.pairs ≠ []) :
    Traces before (fun result events after =>
      result = RunStage.projection.attempt (run.analysis model q) ∧
        events = (run.analysisRecords model q).map .logged ∧ after = before)
      (run.analyse model q.pairs q.tag) := by
  have hfit : ModelFit.fit q.pairs (List.range q.pairs.length) model run.solver =
      .ok (ModelFit.onPairs q.pairs model run.solver) :=
    (ModelFit.fit_range_eq_ok_iff model q.pairs run.solver).mpr ⟨hpairs, rfl⟩
  unfold analyse analysisRecords
  dsimp only
  rw [hfit]
  refine .logged_bind _ (.attempt_bind _ _ (fun fitted h => ?_) (fun _ h => by cases h))
  cases h
  refine .attempt_bind _ _ (fun o ho => ?_) (fun cause hcause => ?_)
  · have hanalysis : run.analysis model q = .ok o := ho
    rw [hanalysis]
    exact .logged_bind _ (.pure ⟨rfl, by simp, rfl⟩)
  · have hanalysis : run.analysis model q = .error cause := hcause
    rw [hanalysis]
    exact ⟨rfl, by simp, rfl⟩

/-- How one request ends, and the reports that it makes. -/
def Answers (model : PointingModel α) (sink : Sink σ α) (before : σ) (q : FitRequest α) :
    Except RunError (FitOutcome α) → List (Report α × Bool) → σ → Prop
  | .ok o, reports, after => reports = run.deliveries [o] ∧ run.analysis model q = .ok o ∧
    run.Delivery model sink before [q] none reports after
  | .error e, reports, after => run.Delivery model sink before [q] (some e) reports after

theorem analyseAndPublish_traces (model : PointingModel α) (sink : Sink σ α) {q : FitRequest α}
    (hpairs : q.pairs ≠ []) :
    Traces before (fun result events after => ∃ rest,
      events = (run.analysisRecords model q).map .logged ++ rest ∧
        run.Answers model sink before q result (publications rest) after)
      (run.analyseAndPublish sink model q.pairs q.tag) := by
  unfold analyseAndPublish
  refine (run.analyse_traces before hpairs).bind ?_ ?_
  · rintro o _ _ ⟨hresult, rfl, rfl⟩
    have hanalysis := RunStage.attempt_eq_ok hresult.symm
    refine (Traces.publish sink (run.report o)).bind ?_ ?_
    · rintro _ events _ ⟨htaken, hreports, rfl⟩
      have hsink := RunStage.attempt_eq_ok htaken.symm
      rw [hsink] at hreports
      refine .pure ⟨events, by simp, hreports, hanalysis, ?_⟩
      rw [hreports]
      exact .taken hanalysis hsink .done
    · rintro e events _ ⟨hrefused, hreports, rfl⟩
      obtain ⟨cause, hsink, rfl⟩ := RunStage.attempt_eq_error hrefused.symm
      rw [hsink] at hreports
      refine ⟨events, rfl, ?_⟩
      rw [hreports]
      exact .refused hanalysis hsink
  · rintro e _ _ ⟨hresult, rfl, rfl⟩
    obtain ⟨cause, hanalysis, rfl⟩ := RunStage.attempt_eq_error hresult.symm
    exact ⟨[], by simp, .failed hanalysis⟩

variable {store : ObservationStore α}

/-- A refit that is not made counts as no request. -/
theorem refit_traces (p : run.Preparation store) (sink : Sink σ α) {indices : List Nat}
    (hasked : run.config.refitSubsets = true) (hindices : ∀ i ∈ indices, i < p.pairs.length)
    (subset : String) :
    Traces before (fun result events after =>
      match result with
      | .ok answer => publications events = run.deliveries answer.toList ∧
          run.Delivery p.model sink before (p.refit indices subset) none (publications events) after
      | .error e => run.Delivery p.model sink before (p.refit indices subset) (some e)
          (publications events) after)
      (run.refit sink p.model p.pairs indices p.tag subset) := by
  unfold refit
  cases indices with
  | nil =>
    rw [p.refit_nil]
    exact .logged_bind _ (.pure ⟨by simp [deliveries], by simpa using .done⟩)
  | cons i rest =>
    have hchosen := filterMap_getElem?_ne_nil (List.cons_ne_nil i rest) hindices
    rw [p.refit_cons hasked]
    refine Traces.bind (run.analyseAndPublish_traces before p.model sink
      (q := ⟨(i :: rest).filterMap fun i => p.pairs[i]?, s!"{p.tag}_{subset}"⟩) hchosen) ?_ ?_
    · rintro o _ _ ⟨events, rfl, hreports, _, hdelivery⟩
      exact .pure ⟨by simpa using hreports, by simpa using hdelivery⟩
    · rintro e _ _ ⟨events, rfl, hdelivery⟩
      simpa [Answers] using hdelivery

end Fitting

theorem makePairs_traces (observations : List (Observation α)) (before : σ) :
    Traces before (fun result events after =>
      let pairs := StarPair.ofObservations observations run.engine run.config.frame
      result = RunStage.transform.attempt pairs ∧
        events = (StarPair.records observations run.engine run.config.frame run.log
          pairs).map .logged ∧ after = before)
      (run.makePairs observations) := by
  unfold makePairs
  exact .logged_bind _ (.attempt _ _ ⟨rfl, by simp, rfl⟩)

section Prepared

variable {run} {store : ObservationStore α} (p : run.Preparation store) (sink : Sink σ α)
  {all : FitOutcome α} (h : run.analysis p.model p.request = .ok all)
include h

/-- A run is over when the outcome of all pairs is reported, unless refits are asked for. -/
theorem refits_course {before mid : σ} {rest : List (RunEvent α)}
    (hreports : publications rest = run.deliveries [all])
    (hdelivery : run.Delivery p.model sink before [p.request] none (publications rest) mid) :
    Traces mid (fun result more after =>
        run.Course store sink before result (p.preamble ++ rest ++ more) after)
      (if run.config.refitSubsets then do
        let selected ← run.refit sink p.model p.pairs all.selection.selected p.tag "selected"
        let dropped ← run.refit sink p.model p.pairs all.selection.dropped p.tag "dropped"
        return p.summary all selected dropped
      else return p.summary all none none) := by
  cases hasked : run.config.refitSubsets with
  | false =>
    have hnone : p.refits all = [] := by
      rw [Preparation.refits, p.refit_of_not_asked hasked, p.refit_of_not_asked hasked]
      rfl
    have hidle : ∀ indices subset,
        run.Delivery p.model sink mid (p.refit indices subset) none [] mid := by
      intro indices subset
      rw [p.refit_of_not_asked hasked]
      exact .done
    exact .pure (.completed p rest h (by simp) (hidle _ _) (hidle _ _) (hnone.symm ▸ hdelivery)
      hreports)
  | true =>
    have hlt := fun i => run.analysis_selection h (i := i)
    rw [if_pos rfl]
    refine Traces.bind (run.refit_traces mid p sink hasked (fun i hi => hlt i (.inl hi)) _) ?_ ?_
    · rintro selected more first ⟨hselected, hfirst⟩
      -- The first refit has made its reports whether the second one fails or not.
      refine Traces.bind (run.refit_traces first p sink hasked (fun i hi => hlt i (.inr hi)) _)
        ?_ ?_
      · rintro dropped last second ⟨hdropped, hsecond⟩
        refine .pure (.completed p (rest ++ (more ++ last)) h (by simp) (hselected ▸ hfirst)
          (hdropped ▸ hsecond) ?_ ?_)
        · simpa [Preparation.refits] using hdelivery.append (hfirst.append hsecond)
        · simp [hreports, hselected, hdropped, deliveries]
      · intro e last second hsecond
        refine .stopped p (rest ++ (more ++ last)) h (by simp) ?_
        simpa [Preparation.refits] using hdelivery.append (hfirst.append hsecond)
    · intro e more first hfirst
      refine .stopped p (rest ++ more) h (by simp) ?_
      simpa [Preparation.refits] using hdelivery.append (hfirst.append_fault _)

omit h

theorem prepared_course (before : σ) :
    Traces before (fun result more after => run.Course store sink before result
        (.logged (run.startRecord p.model) :: p.events ++
          (StarPair.records p.observations run.engine run.config.frame run.log
            (.ok p.pairs)).map .logged ++ more) after)
      (do
        let all ← run.analyseAndPublish sink p.model p.pairs p.tag
        if run.config.refitSubsets then
          let selected ← run.refit sink p.model p.pairs all.selection.selected p.tag "selected"
          let dropped ← run.refit sink p.model p.pairs all.selection.dropped p.tag "dropped"
          return p.summary all selected dropped
        else return p.summary all none none) := by
  refine Traces.bind
    (run.analyseAndPublish_traces before p.model sink (q := p.request) p.pairs_ne_nil) ?_ ?_
  · rintro all _ mid ⟨rest, rfl, hreports, hanalysis, hdelivery⟩
    refine (refits_course p sink hanalysis hreports hdelivery).mono
      fun result more after hcourse => ?_
    simpa [Preparation.preamble] using hcourse
  · rintro e _ after ⟨rest, rfl, hdelivery⟩
    cases hanalysis : run.analysis p.model p.request with
    | ok all =>
      exact .stopped p rest hanalysis (by simp [Preparation.preamble])
        (Delivery.append_fault hdelivery _)
    | error cause =>
      obtain ⟨hfault, hreports, rfl⟩ := Delivery.of_analysis_eq_error hdelivery hanalysis
      cases hfault
      exact .unanalysed p hanalysis (by simp [Loading.events, hreports])

end Prepared

theorem run_traces (store : ObservationStore α) (sink : Sink σ α) (before : σ) :
    Traces before (run.Course store sink before) (run.run store sink) := by
  unfold PointingRun.run
  dsimp only
  refine .attempt_bind _ _ (fun _ hcheck => ?_) fun cause h => .misconfigured h
  obtain ⟨-, hchecked, model, hmodel⟩ := RunConfig.of_check_eq_ok hcheck
  rw [hmodel, hchecked]
  refine .attempt_bind _ _ (fun _ h => ?_) (fun _ h => by cases h)
  cases h
  refine .attempt_bind _ _ (fun _ h => ?_) (fun _ h => by cases h)
  cases h
  refine .logged_bind _ (Traces.bind (run.loadObservations_traces store before hcheck) ?_ ?_)
  · rintro ⟨observations, batch⟩ _ _ ⟨rfl, l, rfl, rfl, rfl⟩
    refine Traces.bind (run.makePairs_traces l.observations _) ?_ ?_
    · rintro pairs _ _ ⟨hresult, rfl, rfl⟩
      have hpairs := RunStage.attempt_eq_ok hresult.symm
      rw [hpairs]
      refine (prepared_course ⟨l, model, pairs, hmodel, hpairs⟩ sink _).mono
        fun result more after hcourse => ?_
      simpa using hcourse
    · rintro e _ _ ⟨hresult, rfl, rfl⟩
      obtain ⟨cause, hcause, rfl⟩ := RunStage.attempt_eq_error hresult.symm
      exact .untransformed l hcause (by simp [Loading.events])
  · rintro ⟨stage, cause⟩ events _ ⟨rfl, rfl, hfault, hevents⟩
    exact .unloaded hcheck hfault (by simpa using hevents)

theorem run_course (store : ObservationStore α) (sink : Sink σ α) (s : Session σ α) :
    ∃ events, ((run.run store sink).run s).2.events = s.events ++ events ∧
      run.Course store sink s.sink ((run.run store sink).run s).1 events
        ((run.run store sink).run s).2.sink :=
  run.run_traces store sink s.sink s rfl

variable {run} in
theorem course_of_run {store : ObservationStore α} {sink : Sink σ α} {s t : Session σ α}
    {result : Except RunError (RunSummary α)} (h : (run.run store sink).run s = (result, t)) :
    ∃ before events after, run.Course store sink before result events after := by
  obtain ⟨events, -, hcourse⟩ := run.run_course store sink s
  rw [h] at hcourse
  exact ⟨s.sink, events, t.sink, hcourse⟩

end PointingRun

end TelescopePointing
