import TelescopePointing.Proofs.Fit.Order
import TelescopePointing.Proofs.Observation.Batch
import TelescopePointing.Proofs.Run.Cost

namespace TelescopePointing

open Running

/-- Two errors are one, or both of them are times at which no star can be placed. A run reports the
first such time of its rows. -/
def RunError.Resembles (e e' : RunError) : Prop :=
  e' = e ∨ ∃ reason reason', e = ⟨.transform, .invalidTime reason⟩ ∧
    e' = ⟨.transform, .invalidTime reason'⟩

structure Report.Reordered {ρ : Type} (rows rows' : List ρ) (r r' : Report ℝ) : Prop where
  outcome : r.toFitOutcome.Reordered rows rows' r'.toFitOutcome
  frame : r'.frame = r.frame

structure RunSummary.Reordered {ρ : Type} (rows rows' : List ρ) (s s' : RunSummary ℝ) : Prop where
  read : s'.read = s.read
  skipped : s'.skipped = s.skipped
  pairs : Drawn rows rows' s.pairs s'.pairs
  all : s.all.Reordered rows rows' s'.all
  selected : Option.Rel (FitOutcome.Reordered rows rows') s.selected s'.selected
  dropped : Option.Rel (FitOutcome.Reordered rows rows') s.dropped s'.dropped

namespace PointingRun

variable [NumberText ℝ] {σ : Type} {R : σ → σ → Prop} (run : PointingRun ℝ)

section Loading

variable {rows rows' : List (StoredObservation ℝ)} (hrows : rows.Perm rows')
include hrows

theorem loadObservations_reordered {site : Site ℝ} (hlimit : rows.length ≤ run.config.limit)
    (hdecodes : ∀ o ∈ rows, o.Decodes run.config.mountSource site) :
    Agree R (fun x y => x.1 = rows.filterMap (·.usable? run.config.mountSource site) ∧
        y.1 = rows'.filterMap (·.usable? run.config.mountSource site) ∧
        y.2.read = x.2.read ∧ y.2.skipped = x.2.skipped)
      (run.loadObservations (.ofList rows) site) (run.loadObservations (.ofList rows') site) := by
  obtain ⟨b, hb, hobservations, hread, hskipped⟩ :=
    Batch.load_ofList hlimit hdecodes run.log
  obtain ⟨b', hb', hobservations', hread', hskipped'⟩ :=
    Batch.load_ofList (hrows.length_eq ▸ hlimit)
      (fun o ho => hdecodes o (hrows.mem_iff.mpr ho)) run.log
  rw [← hrows.length_eq, ← hread] at hread'
  rw [← hrows.countP_eq, ← hskipped] at hskipped'
  have hdescription : (ObservationStore.ofList rows').description =
      (ObservationStore.ofList rows).description := by
    simp only [ObservationStore.ofList, hrows.length_eq]
  have hempty : (rows'.filterMap (·.usable? run.config.mountSource site)).isEmpty =
      (rows.filterMap (·.usable? run.config.mountSource site)).isEmpty := by
    rw [Bool.eq_iff_iff, List.isEmpty_iff_length_eq_zero, List.isEmpty_iff_length_eq_zero,
      (hrows.filterMap _).length_eq]
  unfold loadObservations
  dsimp only
  rw [hb, hb', hdescription]
  simp only [attempt_ok_bind, hobservations, hobservations']
  refine (Agree.opened _).bind fun _ _ _ => ?_
  refine (Agree.logged _ _).bind fun _ _ _ => ?_
  refine (Agree.logged _ _).bind fun _ _ _ => ?_
  rw [hempty, hread', hskipped']
  split
  · exact (Agree.throw (Q := fun _ _ => False) _).bind fun _ _ h => h.elim
  · exact (Agree.logged _ _).bind fun _ _ _ => .pure ⟨rfl, rfl, hread', hskipped'⟩

end Loading

section Analysis

variable {ρ : Type} {rows rows' : List ρ} (hrows : rows.Perm rows')
include hrows

theorem makePairs_reordered {observations observations' : List (Observation ℝ)}
    (h : Drawn rows rows' observations observations')
    (hsite : ∀ o ∈ observations, o.site.check = .ok ()) :
    AgreeUpTo RunError.Resembles R (Drawn rows rows') (run.makePairs observations)
      (run.makePairs observations') := by
  unfold makePairs
  refine ((Agree.logged _ _).upTo fun _ => .inl rfl).bind fun _ _ _ => ?_
  refine .attempt _ ?_ (StarPair.ofObservations_drawn hrows h hsite _ _)
  rintro _ _ ⟨⟨reason, rfl⟩, reason', rfl⟩
  exact .inr ⟨reason, reason', rfl, rfl⟩

variable {model : PointingModel ℝ} {pairs pairs' : List (StarPair ℝ)} {sink : Sink σ ℝ}
  (hpairs : Drawn rows rows' pairs pairs')
include hpairs

theorem analyse_reordered (tag : String) :
    Agree R (FitOutcome.ReorderedOn rows rows' pairs pairs') (run.analyse model pairs tag)
      (run.analyse model pairs' tag) := by
  refine run.analyse_agree_of tag (F := Eq) ?_ ?_
  · rw [ModelFit.fit_range_perm (hpairs.perm hrows)]
    exact Alike.refl (fun _ => rfl) _
  · rintro f _ rfl
    exact FitOutcome.ofFit_reordered hrows hpairs f tag _ _

variable (hsink : sink.Indifferent R (Report.Reordered rows rows'))
include hsink

theorem analyseAndPublish_reordered (tag : String) :
    Agree R (FitOutcome.ReorderedOn rows rows' pairs pairs')
      (run.analyseAndPublish sink model pairs tag)
      (run.analyseAndPublish sink model pairs' tag) :=
  run.analyseAndPublish_agree_of hsink (fun _ _ ho => ⟨ho.toReordered, rfl⟩)
    (run.analyse_reordered hrows hpairs tag)

omit hpairs in
theorem refit_reordered {indices indices' : List Nat}
    (h : Chosen rows rows' pairs pairs' indices indices') (tag subset : String) :
    Agree R (Option.Rel (FitOutcome.Reordered rows rows'))
      (run.refit sink model pairs indices tag subset)
      (run.refit sink model pairs' indices' tag subset) :=
  run.refit_agree_of h.isEmpty (fun _ _ ho => ho.toReordered) tag subset
    (run.analyseAndPublish_reordered hrows h.drawn hsink _)

end Analysis

variable {rows rows' : List (StoredObservation ℝ)} {sink : Sink σ ℝ}

theorem run_upTo_order (hrows : rows.Perm rows') (hlimit : rows.length ≤ run.config.limit)
    (hdecodes : ∀ o ∈ rows, o.Decodes run.config.mountSource run.config.site)
    (hsink : sink.Indifferent R (Report.Reordered rows rows')) :
    AgreeUpTo RunError.Resembles R (RunSummary.Reordered rows rows')
      (run.run (.ofList rows) sink) (run.run (.ofList rows') sink) := by
  have hsame : ∀ e : RunError, e.Resembles e := fun _ => .inl rfl
  unfold PointingRun.run
  dsimp only
  refine ((Agree.attempt _ (Alike.self _)).upTo hsame).bind fun _ _ hcheck => ?_
  obtain ⟨-, hcheck⟩ := hcheck
  refine ((Agree.attempt _ (Alike.refl (fun _ => rfl) _)).upTo hsame).bind fun model _ h => ?_
  obtain rfl := h
  refine ((Agree.attempt _ (Alike.self _)).upTo hsame).bind fun _ site h => ?_
  obtain ⟨rfl, hsite⟩ := h
  obtain rfl : run.config.site = site :=
    Except.ok.inj ((RunConfig.of_check_eq_ok hcheck).2.1.symm.trans hsite)
  refine ((Agree.logged _ _).upTo hsame).bind fun _ _ _ => ?_
  refine ((run.loadObservations_reordered hrows hlimit hdecodes).upTo hsame).bind ?_
  rintro ⟨_, batch⟩ ⟨_, batch'⟩ ⟨rfl, rfl, hread, hskipped⟩
  have hsites : ∀ o ∈ rows.filterMap (·.usable? run.config.mountSource run.config.site),
      o.site.check = .ok () := by
    intro o ho
    obtain ⟨row, -, hrow⟩ := List.mem_filterMap.mp ho
    rw [StoredObservation.usable?_site hrow]
    exact RunConfig.site_check hcheck
  -- Here alone the runs may end with different errors; all that follows fails alike.
  refine (run.makePairs_reordered hrows ⟨_, rfl, rfl⟩ hsites).bind fun pairs pairs' hpairs => ?_
  refine Agree.upTo hsame ?_
  refine (run.analyseAndPublish_reordered hrows hpairs hsink _).bind fun all all' hall => ?_
  split
  · refine (run.refit_reordered hrows hsink hall.selected _ _).bind
      fun selected selected' hselected => ?_
    refine (run.refit_reordered hrows hsink hall.dropped _ _).bind
      fun dropped dropped' hdropped => ?_
    exact .pure ⟨hread, hskipped, hpairs, hall.toReordered, hselected, hdropped⟩
  · exact .pure ⟨hread, hskipped, hpairs, hall.toReordered, .none, .none⟩

end PointingRun

/-- In exact arithmetic the order of the rows in a list shows in the order of what is reported about
each of them, and in nothing else, as long as the list can be read to its end. This holds for every
sink that does not look at that order, and a folder of tables is one. -/
theorem run_reordered [NumberText ℝ] (run : PointingRun ℝ)
    {rows rows' : List (StoredObservation ℝ)} (hrows : rows.Perm rows')
    (hlimit : rows.length ≤ run.config.limit)
    (hdecodes : ∀ o ∈ rows, o.Decodes run.config.mountSource run.config.site) :
    (∀ (σ : Type) (R : σ → σ → Prop) (sink : Sink σ ℝ),
      sink.Indifferent R (Report.Reordered rows rows') →
      AgreeUpTo RunError.Resembles R (RunSummary.Reordered rows rows')
        (run.run (.ofList rows) sink) (run.run (.ofList rows') sink)) ∧
    AgreeUpTo RunError.Resembles (fun s s' => s'.blank = s.blank)
      (RunSummary.Reordered rows rows') (run.run (.ofList rows) Program.tableSink)
      (run.run (.ofList rows') Program.tableSink) :=
  ⟨fun _ _ _ hsink => run.run_upTo_order hrows hlimit hdecodes hsink,
    run.run_upTo_order hrows hlimit hdecodes
      (tableSink_indifferent_of fun _ _ h => ⟨h.outcome.tag, h.frame⟩)⟩

theorem run_reordered_reverse : letI := roundedText
    threeStars.Perm threeStars.reverse ∧ threeStars.length ≤ refitting.config.limit ∧
    (∀ o ∈ threeStars, o.Decodes refitting.config.mountSource refitting.config.site) ∧
    ∃ s s' t t',
      (refitting.run (.ofList threeStars) tagSink).run (.start []) = (.ok s, t) ∧
      (refitting.run (.ofList threeStars.reverse) tagSink).run (.start []) = (.ok s', t') ∧
      s.Reordered threeStars threeStars.reverse s' := by
  let := roundedText
  have hperm : threeStars.Perm threeStars.reverse := (List.reverse_perm _).symm
  have hdecodes : ∀ o ∈ threeStars,
      o.Decodes refitting.config.mountSource refitting.config.site := fun o ho mount _ =>
    (decode_of_date (threeStars_date o ho) mount _).imp fun _ h => h.1
  have hsink : tagSink.Indifferent Eq (Report.Reordered threeStars threeStars.reverse) := by
    rintro r r' h s _ rfl
    exact ⟨rfl, congrArg (fun tag => s ++ [tag]) h.outcome.tag.symm⟩
  obtain ⟨s, t, hrun, -⟩ := refitting_succeeds (.start [])
  obtain ⟨ready'⟩ := exists_preparation (fun o ho => threeStars_date o (List.mem_reverse.mp ho))
    (List.mem_reverse.mpr List.mem_cons_self) (hperm.length_eq ▸ threeStars_room)
  obtain ⟨s', t', hrun', -⟩ := PointingRun.run_succeeds ready' tagSink_takesAll (.start [])
  obtain ⟨halike, -⟩ := (run_reordered refitting hperm threeStars_room hdecodes).1 _ Eq tagSink hsink
    (.start []) (.start []) rfl
  rw [hrun, hrun'] at halike
  cases halike with
  | ok h => exact ⟨hperm, threeStars_room, hdecodes, s, s', t, t', hrun, hrun', h⟩

end TelescopePointing
