import TelescopePointing.Proofs.Run.Agreement

namespace TelescopePointing

variable {σ α β γ : Type}

namespace RunStage

variable {β : Type} {stage : RunStage} {x : Except PointingError β}

theorem attempt_eq_ok {b : β} (h : stage.attempt x = .ok b) : x = .ok b := by
  cases x with
  | ok c => exact congrArg Except.ok (Except.ok.inj h)
  | error _ => cases h

theorem attempt_eq_error {e : RunError} (h : stage.attempt x = .error e) :
    ∃ cause, x = .error cause ∧ e = ⟨stage, cause⟩ := by
  cases x with
  | ok _ => cases h
  | error cause => exact ⟨cause, rfl, (Except.error.inj h).symm⟩

end RunStage

def publications (events : List (RunEvent α)) : List (Report α × Bool) :=
  events.filterMap fun e =>
    match e with
    | .published r taken => some (r, taken)
    | _ => none

@[simp] theorem publications_nil : publications ([] : List (RunEvent α)) = [] := rfl

@[simp] theorem publications_append (events more : List (RunEvent α)) :
    publications (events ++ more) = publications events ++ publications more :=
  List.filterMap_append

@[simp] theorem publications_logged (records : List LogRecord) :
    publications (records.map (RunEvent.logged (α := α))) = [] := by
  rw [publications, List.filterMap_map]
  exact List.filterMap_eq_nil_iff.mpr fun _ _ => rfl

@[simp] theorem publications_logged_cons (r : LogRecord) (events : List (RunEvent α)) :
    publications (.logged r :: events) = publications events := rfl

@[simp] theorem publications_opened_cons (description : String) (events : List (RunEvent α)) :
    publications (.opened description :: events) = publications events := rfl

@[simp] theorem publications_published_cons (r : Report α) (taken : Bool)
    (events : List (RunEvent α)) :
    publications (.published r taken :: events) = (r, taken) :: publications events := rfl

/-- Reports that a sink was offered one after the other, each in the state that the calls before it
had left, with whether that call took it. -/
inductive Sink.Calls (sink : Sink σ α) : σ → List (Report α × Bool) → σ → Prop
  | done {state} : Calls sink state [] state
  | call {state last reports} (r : Report α)
      (h : Calls sink (sink.publish r state).sink reports last) :
    Calls sink state ((r, (sink.publish r state).result.isOk) :: reports) last

namespace Running

variable {before : σ} {P : Except RunError β → List (RunEvent α) → σ → Prop}
  {Q : Except RunError γ → List (RunEvent α) → σ → Prop}

/-- From every session whose sink is in some state a run only adds events, and these, its result and
the state that it leaves the sink in have a property. -/
def Traces (before : σ) (P : Except RunError β → List (RunEvent α) → σ → Prop)
    (x : Running σ α β) : Prop :=
  ∀ s, s.sink = before → ∃ events, (x.run s).2.events = s.events ++ events ∧
    P (x.run s).1 events (x.run s).2.sink

namespace Traces

theorem pure {b : β} (h : P (.ok b) [] before) : Traces before P (pure b) := by
  rintro s rfl
  exact ⟨[], (List.append_nil s.events).symm, h⟩

theorem throw {e : RunError} (h : P (.error e) [] before) : Traces before P (throw e) := by
  rintro s rfl
  exact ⟨[], (List.append_nil s.events).symm, h⟩

theorem mono {P' : Except RunError β → List (RunEvent α) → σ → Prop} {x : Running σ α β}
    (h : Traces before P x)
    (himp : ∀ result events after, P result events after → P' result events after) :
    Traces before P' x := by
  intro s hs
  obtain ⟨events, hevents, hP⟩ := h s hs
  exact ⟨events, hevents, himp _ _ _ hP⟩

/-- What comes after a step finds the sink as the step left it, and has to answer for the events of
that step too. -/
theorem bind {x : Running σ α γ} (h : Traces before Q x) {f : γ → Running σ α β}
    (hok : ∀ c events mid, Q (.ok c) events mid →
      Traces mid (fun result more after => P result (events ++ more) after) (f c))
    (herror : ∀ e events after, Q (.error e) events after → P (.error e) events after) :
    Traces before P (x >>= f) := by
  intro s hs
  obtain ⟨events, hevents, hQ⟩ := h s hs
  rw [run_bind]
  generalize x.run s = step at hevents hQ
  obtain ⟨e | c, t⟩ := step
  · exact ⟨events, hevents, herror _ _ _ hQ⟩
  · obtain ⟨more, hmore, hP⟩ := hok _ _ _ hQ t rfl
    refine ⟨events ++ more, ?_, hP⟩
    rw [hmore, hevents, List.append_assoc]

theorem logged_bind (records : List LogRecord) {f : Unit → Running σ α β}
    (h : Traces before (fun result more after => P result (records.map .logged ++ more) after)
      (f ())) : Traces before P (logged records >>= f) := by
  have hlogged : Traces before (fun result events after => result = .ok () ∧
      events = records.map (RunEvent.logged (α := α)) ∧ after = before) (logged records) := by
    rintro s rfl
    exact ⟨_, rfl, rfl, rfl, rfl⟩
  refine hlogged.bind ?_ ?_
  · rintro _ _ _ ⟨-, rfl, rfl⟩
    exact h
  · rintro _ _ _ ⟨h, -⟩
    cases h

theorem opened_bind (description : String) {f : Unit → Running σ α β}
    (h : Traces before (fun result more after => P result (.opened description :: more) after)
      (f ())) : Traces before P (opened description >>= f) := by
  have hopened : Traces before (fun result events after => result = .ok () ∧
      events = [RunEvent.opened (α := α) description] ∧ after = before) (opened description) := by
    rintro s rfl
    exact ⟨_, rfl, rfl, rfl, rfl⟩
  refine hopened.bind ?_ ?_
  · rintro _ _ _ ⟨-, rfl, rfl⟩
    exact h
  · rintro _ _ _ ⟨h, -⟩
    cases h

theorem attempt_bind (stage : RunStage) (x : Except PointingError γ) {f : γ → Running σ α β}
    (hok : ∀ c, x = .ok c → Traces before P (f c))
    (herror : ∀ cause, x = .error cause → P (.error ⟨stage, cause⟩) [] before) :
    Traces before P (attempt stage x >>= f) := by
  cases x with
  | ok c => exact hok c rfl
  | error cause => exact throw (herror cause rfl)

theorem attempt (stage : RunStage) (x : Except PointingError β)
    (h : P (stage.attempt x) [] before) : Traces before P (attempt stage x) := by
  cases x with
  | ok b => exact pure h
  | error cause => exact throw h

/-- A report is one call of the sink, and the result is the answer of that call. -/
theorem publish (sink : Sink σ α) (r : Report α) :
    Traces before (fun result events after =>
      result = RunStage.output.attempt (sink.publish r before).result ∧
        publications events = [(r, (sink.publish r before).result.isOk)] ∧
        after = (sink.publish r before).sink)
      (Running.publish sink r) := by
  rintro s rfl
  have hattempt : ∀ (x : Except PointingError Unit) (t : Session σ α),
      (Running.attempt .output x).run t = (RunStage.output.attempt x, t) := by
    intro x t
    cases x <;> rfl
  obtain ⟨step, hstep⟩ : ∃ step, step = sink.publish r s.sink := ⟨_, rfl⟩
  have hrun : (Running.publish sink r).run s = (RunStage.output.attempt step.result,
      { s with sink := step.sink }.note
        (.published r step.result.isOk :: step.records.map .logged)) := by
    rw [hstep, ← hattempt]
    rfl
  rw [hrun, ← hstep]
  refine ⟨.published r step.result.isOk :: step.records.map .logged, rfl, rfl, ?_, rfl⟩
  rw [publications_published_cons, publications_logged]

end Traces

end Running

end TelescopePointing
