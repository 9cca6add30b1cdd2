import TelescopePointing.Proofs.Fit.Cost
import TelescopePointing.Proofs.Run.Trace

namespace TelescopePointing

variable {σ α : Type} [Scalar α]

structure FitRequest (α : Type) where
  pairs : List (StarPair α)
  tag : String

namespace PointingRun

variable (run : PointingRun α)

def analysis (model : PointingModel α) (q : FitRequest α) : Except PointingError (FitOutcome α) :=
  FitOutcome.ofFit q.tag q.pairs (ModelFit.onPairs q.pairs model run.solver) run.config.bins
    run.config.thresholdAngle

def report (o : FitOutcome α) : Report α := { o with frame := run.config.frame }

def deliveries (outcomes : List (FitOutcome α)) : List (Report α × Bool) :=
  outcomes.map fun o => (run.report o, true)

theorem analysis_selection {model : PointingModel α} {q : FitRequest α} {o : FitOutcome α}
    (h : run.analysis model q = .ok o) {i : Nat}
    (hi : i ∈ o.selection.selected ∨ i ∈ o.selection.dropped) : i < q.pairs.length := by
  obtain ⟨_, -, rfl⟩ := FitOutcome.ofFit_eq_ok_iff.mp h
  simpa [ResidualPoint.ofPairs] using Selection.lt_length_of_mem hi

/-- A report of what a request comes to, whether or not the sink takes it. -/
def Reports (model : PointingModel α) (q : FitRequest α) (x : Report α × Bool) : Prop :=
  ∃ o, run.analysis model q = .ok o ∧ x.1 = run.report o

/-- Requests are worked off one after the other, until one fails or the sink refuses a report. Each
report finds the sink in the state that the report before it left. -/
inductive Delivery (model : PointingModel α) (sink : Sink σ α) :
    σ → List (FitRequest α) → Option RunError → List (Report α × Bool) → σ → Prop
  | done {state} : Delivery model sink state [] none [] state
  | failed {state q rest cause} (h : run.analysis model q = .error cause) :
    Delivery model sink state (q :: rest) (some ⟨.projection, cause⟩) [] state
  | refused {state q rest o cause} (h : run.analysis model q = .ok o)
      (hsink : (sink.publish (run.report o) state).result = .error cause) :
    Delivery model sink state (q :: rest) (some ⟨.output, cause⟩) [(run.report o, false)]
      (sink.publish (run.report o) state).sink
  | taken {state last q rest o fault reports} (h : run.analysis model q = .ok o)
      (hsink : (sink.publish (run.report o) state).result = .ok ())
      (hrest : Delivery model sink (sink.publish (run.report o) state).sink rest fault reports
        last) :
    Delivery model sink state (q :: rest) fault ((run.report o, true) :: reports) last

namespace Delivery

variable {run} {model : PointingModel α} {sink : Sink σ α} {state mid last : σ}
  {qs rest : List (FitRequest α)} {fault : Option RunError} {reports more : List (Report α × Bool)}

theorem append (h : run.Delivery model sink state qs none reports mid)
    (hrest : run.Delivery model sink mid rest fault more last) :
    run.Delivery model sink state (qs ++ rest) fault (reports ++ more) last := by
  -- The ending is an index of the induction: without a fault every report was taken.
  generalize hending : (none : Option RunError) = ending at h
  induction h with
  | done => exact hrest
  | failed _ => cases hending
  | refused _ _ => cases hending
  | taken h hsink _ ih => exact .taken h hsink (ih hrest hending)

theorem append_fault {e : RunError} (h : run.Delivery model sink state qs (some e) reports last)
    (rest : List (FitRequest α)) :
    run.Delivery model sink state (qs ++ rest) (some e) reports last := by
  generalize hending : some e = ending at h ⊢
  induction h with
  | done => cases hending
  | failed h => exact .failed h
  | refused h hsink => exact .refused h hsink
  | taken h hsink _ ih => exact .taken h hsink (ih hending)

theorem of_analysis_eq_error {q : FitRequest α} {cause : PointingError}
    (h : run.Delivery model sink state (q :: rest) fault reports last)
    (hcause : run.analysis model q = .error cause) :
    fault = some ⟨.projection, cause⟩ ∧ reports = [] ∧ last = state := by
  cases h with
  | failed h =>
    cases h.symm.trans hcause
    exact ⟨rfl, rfl, rfl⟩
  | refused h _ => cases h.symm.trans hcause
  | taken h _ _ => cases h.symm.trans hcause

theorem calls (h : run.Delivery model sink state qs fault reports last) :
    sink.Calls state reports last := by
  induction h with
  | done => exact .done
  | failed _ => exact .done
  | @refused state q rest o cause h hsink =>
    have hcall : sink.Calls state [(run.report o, (sink.publish (run.report o) state).result.isOk)]
        (sink.publish (run.report o) state).sink := .call _ .done
    rwa [hsink] at hcall
  | @taken state last q rest o fault reports h hsink _ ih =>
    have hcall := Sink.Calls.call (run.report o) ih
    rwa [hsink] at hcall

theorem reports_prefix (h : run.Delivery model sink state qs fault reports last) :
    ∃ done left, qs = done ++ left ∧ List.Forall₂ (run.Reports model) done reports := by
  induction h with
  | done => exact ⟨[], [], rfl, .nil⟩
  | failed _ => exact ⟨[], _, rfl, .nil⟩
  | refused h _ => exact ⟨[_], _, rfl, .cons ⟨_, h, rfl⟩ .nil⟩
  | taken h _ _ ih =>
    obtain ⟨done, left, rfl, hreports⟩ := ih
    exact ⟨_ :: done, left, rfl, .cons ⟨_, h, rfl⟩ hreports⟩

theorem reports_all (h : run.Delivery model sink state qs none reports last) :
    List.Forall₂ (run.Reports model) qs reports := by
  generalize hending : (none : Option RunError) = ending at h
  induction h with
  | done => exact .nil
  | failed _ => cases hending
  | refused _ _ => cases hending
  | taken h _ _ ih => exact .cons ⟨_, h, rfl⟩ (ih hending)

/-- What ends a delivery comes after everything that the sink has taken: its answer to the last call,
or the failure of the next request. -/
inductive Ending (run : PointingRun α) (model : PointingModel α) (sink : Sink σ α) (state : σ)
    (qs : List (FitRequest α)) (reports : List (Report α × Bool)) : RunError → Prop
  | refused (before : List (Report α × Bool)) (r : Report α) (mid : σ) (cause : PointingError)
      (hlast : reports = before ++ [(r, false)]) (htaken : ∀ x ∈ before, x.2 = true)
      (hcalls : sink.Calls state before mid)
      (hsink : (sink.publish r mid).result = .error cause) :
    Ending run model sink state qs reports ⟨.output, cause⟩
  | failed (done : List (FitRequest α)) (q : FitRequest α) (left : List (FitRequest α))
      (cause : PointingError) (hnext : qs = done ++ q :: left)
      (hlength : done.length = reports.length) (htaken : ∀ x ∈ reports, x.2 = true)
      (hanalysis : run.analysis model q = .error cause) :
    Ending run model sink state qs reports ⟨.projection, cause⟩

theorem Ending.cons {e : RunError} {r : Report α}
    (h : Ending run model sink (sink.publish r state).sink qs reports e)
    (hsink : (sink.publish r state).result = .ok ()) (q : FitRequest α) :
    Ending run model sink state (q :: qs) ((r, true) :: reports) e := by
  cases h with
  | refused before r' mid cause hlast htaken hcalls hrefused =>
    have hcall := Sink.Calls.call r hcalls
    rw [hsink] at hcall
    refine .refused ((r, true) :: before) r' mid cause (by rw [hlast]; rfl) ?_ hcall hrefused
    simpa using htaken
  | failed done q' left cause hnext hlength htaken hanalysis =>
    refine .failed (q :: done) q' left cause (by rw [hnext]; rfl) (by simpa using hlength) ?_
      hanalysis
    simpa using htaken

theorem ending {e : RunError} (h : run.Delivery model sink state qs (some e) reports last) :
    Ending run model sink state qs reports e := by
  generalize hfault : some e = fault at h
  induction h with
  | done => cases hfault
  | failed h =>
    cases hfault
    exact .failed [] _ _ _ rfl rfl (by simp) h
  | refused h hsink =>
    cases hfault
    exact .refused [] _ _ _ rfl (by simp) .done hsink
  | taken _ hsink _ ih => exact (ih hfault).cons hsink _

end Delivery

end PointingRun

end TelescopePointing
