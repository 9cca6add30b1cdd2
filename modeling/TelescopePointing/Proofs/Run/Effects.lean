import TelescopePointing.Proofs.Run.Course

namespace TelescopePointing

variable {σ α : Type} [Scalar α]

namespace PointingRun

variable [NumberText α] (run : PointingRun α)

namespace Preparation

variable {run} {store : ObservationStore α} (p : run.Preparation store)

def refitTag (indices : List Nat) (subset : String) : Option String :=
  if run.config.refitSubsets ∧ indices ≠ [] then some s!"{p.tag}_{subset}" else none

def tags (all : FitOutcome α) : List String :=
  p.tag :: (p.refitTag all.selection.selected "selected").toList ++
    (p.refitTag all.selection.dropped "dropped").toList

theorem refit_tags (indices : List Nat) (subset : String) :
    (p.refit indices subset).map (·.tag) = (p.refitTag indices subset).toList := by
  by_cases h : run.config.refitSubsets ∧ indices ≠ []
  · simp [refit, refitTag, h]
  · rw [refitTag, if_neg h]
    simp only [not_and, ne_eq, not_not] at h
    simpa [refit] using h

theorem requests_tags (all : FitOutcome α) :
    (p.request :: p.refits all).map (·.tag) = p.tags all := by
  rw [List.map_cons, refits, List.map_append, refit_tags, refit_tags]
  rfl

/-- What a sink is told when all pairs have been analysed, and how the run goes on. -/
structure Reported (sink : Sink σ α) (before : σ) (all : FitOutcome α)
    (result : Except RunError (RunSummary α)) (reports : List (Report α × Bool)) : Prop where
  axes : all.projections.map (·.axis) = ResidualAxis.all
  tags : reports.map (·.1.tag) <+: p.tags all
  contents : ∃ done left, p.request :: p.refits all = done ++ left ∧
    List.Forall₂ (run.Reports p.model) done reports
  ended : ∀ e, result = .error e →
    Delivery.Ending run p.model sink before (p.request :: p.refits all) reports e
  complete : ∀ s, result = .ok s →
    s = p.summary all s.selected s.dropped ∧
      s.selected.map (·.tag) = p.refitTag all.selection.selected "selected" ∧
      s.dropped.map (·.tag) = p.refitTag all.selection.dropped "dropped" ∧
      reports.map (·.1.tag) = p.tags all ∧
      reports = (s.all :: s.selected.toList ++ s.dropped.toList).map fun o => (run.report o, true)

theorem tags_of_reports {qs : List (FitRequest α)} {reports : List (Report α × Bool)}
    (h : List.Forall₂ (run.Reports p.model) qs reports) :
    reports.map (·.1.tag) = qs.map (·.tag) := by
  refine map_eq_of_forall₂ ?_ h
  rintro q ⟨r, taken⟩ ⟨o, ho, rfl⟩
  obtain ⟨_, _, rfl⟩ := FitOutcome.ofFit_eq_ok_iff.mp ho
  rfl

theorem refitTag_of_delivery {sink : Sink σ α} {state last : σ} {indices : List Nat}
    {subset : String} {answer : Option (FitOutcome α)}
    (h : run.Delivery p.model sink state (p.refit indices subset) none
      (run.deliveries answer.toList) last) : answer.map (·.tag) = p.refitTag indices subset := by
  have htags := p.tags_of_reports h.reports_all
  rw [p.refit_tags] at htags
  have hanswer : (answer.map (·.tag)).toList = (p.refitTag indices subset).toList := by
    rw [← htags]
    cases answer <;> rfl
  simpa only [Option.head?_toList] using congrArg List.head? hanswer

theorem publications_preamble : publications p.preamble = [] := by
  simp [preamble, Loading.events]

end Preparation

/-- What a run does in view of its result. Nothing happens under inconsistent options, and no sink
is called before all pairs are analysed. The reports are the calls of the sink, one after the other
from the state that it was in before the run to the one that it is in after it. -/
structure Effects (store : ObservationStore α) (sink : Sink σ α) (before : σ)
    (result : Except RunError (RunSummary α)) (events : List (RunEvent α)) (after : σ) : Prop where
  unopened : ∀ e, run.check = .error e → result = .error e ∧ events = [] ∧ after = before
  calls : sink.Calls before (publications events) after
  reported : (∃ e, result = .error e) ∧ publications events = [] ∨
    ∃ (p : run.Preparation store) (all : FitOutcome α) (rest : List (RunEvent α)),
      run.analysis p.model p.request = .ok all ∧ events = p.preamble ++ rest ∧
        publications p.preamble = [] ∧ p.Reported sink before all result (publications rest)

variable {run} {store : ObservationStore α} {sink : Sink σ α} {before after : σ}
  {result : Except RunError (RunSummary α)} {events : List (RunEvent α)}

theorem Course.unopened (h : run.Course store sink before result events after) :
    ∀ e, run.check = .error e → result = .error e ∧ events = [] ∧ after = before := by
  intro e he
  obtain ⟨cause, hcause, rfl⟩ := RunStage.attempt_eq_error he
  have hinconsistent : run.config.check run.registry ≠ .ok () := by
    rw [hcause]
    exact nofun
  cases h with
  | misconfigured h =>
    cases h.symm.trans hcause
    exact ⟨rfl, rfl, rfl⟩
  | unloaded hcheck => exact absurd hcheck hinconsistent
  | untransformed l => exact absurd l.checked hinconsistent
  | unanalysed p => exact absurd p.checked hinconsistent
  | stopped p => exact absurd p.checked hinconsistent
  | completed p => exact absurd p.checked hinconsistent

theorem Course.calls (h : run.Course store sink before result events after) :
    sink.Calls before (publications events) after := by
  have hpreamble : ∀ (p : run.Preparation store) rest,
      publications (p.preamble ++ rest) = publications rest := by
    intro p rest
    rw [publications_append, p.publications_preamble, List.nil_append]
  cases h with
  | misconfigured _ => exact .done
  | unloaded _ _ hevents => exact hevents ▸ .done
  | untransformed _ _ hevents => exact hevents ▸ .done
  | unanalysed _ _ hevents => exact hevents ▸ .done
  | stopped p rest _ hevents hdelivery => exact hevents ▸ hpreamble p rest ▸ hdelivery.calls
  | completed p rest _ hevents _ _ hdelivery =>
    exact hevents ▸ hpreamble p rest ▸ hdelivery.calls

theorem Course.effects (h : run.Course store sink before result events after) :
    run.Effects store sink before result events after := by
  refine ⟨h.unopened, h.calls, ?_⟩
  cases h with
  | misconfigured _ => exact .inl ⟨⟨_, rfl⟩, rfl⟩
  | unloaded _ _ hevents => exact .inl ⟨⟨_, rfl⟩, hevents⟩
  | untransformed _ _ hevents => exact .inl ⟨⟨_, rfl⟩, hevents⟩
  | unanalysed _ _ hevents => exact .inl ⟨⟨_, rfl⟩, hevents⟩
  | @stopped all e _ _ p rest h hevents hdelivery =>
    obtain ⟨done, left, hrequests, hreports⟩ := hdelivery.reports_prefix
    refine .inr ⟨p, all, rest, h, hevents, p.publications_preamble, FitOutcome.ofFit_axes h, ?_,
      ⟨done, left, hrequests, hreports⟩, ?_, ?_⟩
    · rw [p.tags_of_reports hreports, ← p.requests_tags, hrequests, List.map_append]
      exact List.prefix_append _ _
    · rintro _ ⟨⟩
      exact hdelivery.ending
    · rintro _ ⟨⟩
  | @completed all selected dropped _ _ _ _ p rest h hevents hselected hdropped hdelivery hreports =>
    have htags : (publications rest).map (·.1.tag) = p.tags all := by
      rw [p.tags_of_reports hdelivery.reports_all, p.requests_tags]
    refine .inr ⟨p, all, rest, h, hevents, p.publications_preamble, FitOutcome.ofFit_axes h, ?_,
      ⟨_, [], (List.append_nil _).symm, hdelivery.reports_all⟩, ?_, ?_⟩
    · rw [htags]
    · rintro _ ⟨⟩
    · rintro _ ⟨⟩
      exact ⟨rfl, p.refitTag_of_delivery hselected, p.refitTag_of_delivery hdropped, htags,
        hreports⟩

end PointingRun

/-- The effects of a run come in one order, whatever its options, its store and its sink, and the
sink is left as its calls leave it. -/
theorem run_effects [NumberText α] (run : PointingRun α) (store : ObservationStore α)
    (sink : Sink σ α) (s : Session σ α) :
    ∃ events, ((run.run store sink).run s).2.events = s.events ++ events ∧
      run.Effects store sink s.sink ((run.run store sink).run s).1 events
        ((run.run store sink).run s).2.sink := by
  obtain ⟨events, happended, hcourse⟩ := run.run_course store sink s
  exact ⟨events, happended, hcourse.effects⟩

end TelescopePointing
