import TelescopePointing.Proofs.Fit.Convention
import TelescopePointing.CommandLine.Program
import TelescopePointing.Proofs.Config.Check
import TelescopePointing.Proofs.Model.Registry
import TelescopePointing.Proofs.Report.Tables
import TelescopePointing.Proofs.Run.Agreement
import TelescopePointing.Proofs.Scalar.Real

namespace TelescopePointing

open Running

structure Report.Mirrored (r r' : Report ℝ) : Prop where
  outcome : r.toFitOutcome.Mirrored r'.toFitOutcome
  frame : r'.frame = r.frame

structure RunSummary.Mirrored (s s' : RunSummary ℝ) : Prop where
  read : s'.read = s.read
  skipped : s'.skipped = s.skipped
  pairs : List.Forall₂ StarPair.Opposite s.pairs s'.pairs
  all : s.all.Mirrored s'.all
  selected : Option.Rel FitOutcome.Mirrored s.selected s'.selected
  dropped : Option.Rel FitOutcome.Mirrored s.dropped s'.dropped

namespace PointingRun

variable [NumberText ℝ] {σ : Type} {R : σ → σ → Prop}

def inConvention (run : PointingRun ℝ) (c : AzimuthConvention) : PointingRun ℝ :=
  { run with config := { run.config with convention := some c } }

variable (run : PointingRun ℝ)

theorem loadObservations_agree (store : ObservationStore ℝ) (site : Site ℝ) :
    Agree R (fun x y => y = x) (run.loadObservations store site)
      (run.loadObservations store site) := by
  unfold loadObservations
  refine (Agree.opened _).bind fun _ _ _ => ?_
  refine (Agree.attempt _ (Alike.refl (fun _ => rfl) _)).bind fun batch _ h => ?_
  obtain rfl := h
  refine (Agree.logged _ _).bind fun _ _ _ => ?_
  refine (Agree.logged _ _).bind fun _ _ _ => ?_
  refine (Agree.attempt _ (Alike.refl (fun _ => rfl) _)).bind fun observations _ h => ?_
  obtain rfl := h
  dsimp only
  split
  · exact (Agree.throw (Q := fun _ _ => False) _).bind fun _ _ h => h.elim
  · exact (Agree.logged _ _).bind fun _ _ _ => .pure rfl

section Analysis

variable {model : PointingModel ℝ} {pairs pairs' : List (StarPair ℝ)}

theorem analyse_agree (hm : model.Tilted) (hp : List.Forall₂ StarPair.Opposite pairs pairs')
    (tag : String) :
    Agree R FitOutcome.Mirrored (run.analyse model pairs tag) (run.analyse model pairs' tag) := by
  refine run.analyse_agree_of tag (F := fun f g => f.model = model ∧ f.Mirrored g) ?_ ?_
  · rw [← hp.length_eq]
    exact ModelFit.fit_mirrored hm hp _ _
  · rintro f g ⟨hmodel, hmirrored⟩
    exact FitOutcome.ofFit_mirrored (hmodel ▸ hm) hmirrored hp _ _ _

variable {sink : Sink σ ℝ}

theorem analyseAndPublish_agree (hsink : sink.Indifferent R Report.Mirrored) (hm : model.Tilted)
    (hp : List.Forall₂ StarPair.Opposite pairs pairs') (tag : String) :
    Agree R FitOutcome.Mirrored (run.analyseAndPublish sink model pairs tag)
      (run.analyseAndPublish sink model pairs' tag) :=
  run.analyseAndPublish_agree_of hsink (fun _ _ ho => ⟨ho, rfl⟩) (run.analyse_agree hm hp tag)

theorem refit_agree (hsink : sink.Indifferent R Report.Mirrored) (hm : model.Tilted)
    (hp : List.Forall₂ StarPair.Opposite pairs pairs') (indices : List Nat) (tag subset : String) :
    Agree R (Option.Rel FitOutcome.Mirrored)
      (run.refit sink model pairs indices tag subset)
      (run.refit sink model pairs' indices tag subset) :=
  run.refit_agree_of rfl (fun _ _ ho => ho) tag subset
    (run.analyseAndPublish_agree hsink hm (forall₂_choose hp indices) _)

end Analysis

theorem makePairs_agree (hframe : run.config.frame = .horizon)
    (observations : List (Observation ℝ)) :
    Agree R (List.Forall₂ StarPair.Opposite)
      ((run.inConvention .northEast).makePairs observations)
      ((run.inConvention .southWest).makePairs observations) := by
  have h := StarPair.ofObservations_opposite observations
    (.make run.config.strategy none run.log)
  rw [← hframe] at h
  unfold makePairs
  exact (Agree.logged _ _).bind fun _ _ _ => .attempt _ h

theorem run_agree (store : ObservationStore ℝ) {sink : Sink σ ℝ}
    (hmodel : ∀ m, run.config.pointingModel run.registry = .ok m →
      m = AltAzimuth.basic ∨ m = AltAzimuth.harmonic)
    (hsink : sink.Indifferent R Report.Mirrored) :
    Agree R RunSummary.Mirrored ((run.inConvention .northEast).run store sink)
      ((run.inConvention .southWest).run store sink) := by
  unfold PointingRun.run
  dsimp only
  refine (Agree.attempt (Q := fun _ _ => True) _ (Alike.refl (fun _ => trivial) _)).bind
    fun _ _ _ => ?_
  refine (Agree.attempt _ (Alike.self _)).bind fun _ model h => ?_
  obtain ⟨rfl, hcreated⟩ := h
  have htilted : model.Tilted := by
    rcases hmodel model hcreated with rfl | rfl
    · exact AltAzimuth.tilted_basic
    · exact AltAzimuth.tilted_harmonic
  have hframe : run.config.frame = .horizon := by
    have hworks : model.frame = run.config.frame := (RunConfig.pointingModel_eq_ok hcreated).2
    rw [← hworks]
    rcases hmodel model hcreated with rfl | rfl <;> rfl
  refine (Agree.attempt _ (Alike.self _)).bind fun _ site h => ?_
  obtain ⟨rfl, _⟩ := h
  refine (Agree.logged _ _).bind fun _ _ _ => ?_
  refine (run.loadObservations_agree store site).bind fun _ loaded h => ?_
  obtain rfl := h
  obtain ⟨observations, batch⟩ := loaded
  refine (run.makePairs_agree hframe observations).bind fun pairs pairs' hp => ?_
  refine (run.analyseAndPublish_agree hsink htilted hp _).bind fun all all' hall => ?_
  rw [hall.selection]
  have hrefit : ∀ c, (run.inConvention c).config.refitSubsets = run.config.refitSubsets :=
    fun _ => rfl
  simp only [hrefit]
  split
  · refine (run.refit_agree hsink htilted hp _ _ _).bind fun selected selected' hselected => ?_
    refine (run.refit_agree hsink htilted hp _ _ _).bind fun dropped dropped' hdropped => ?_
    exact .pure ⟨rfl, rfl, hp, hall, hselected, hdropped⟩
  · exact .pure ⟨rfl, rfl, hp, hall, .none, .none⟩

end PointingRun

/-- A folder of tables does not look at what is in them. -/
theorem tableSink_indifferent_of [NumberText ℝ] {P : Report ℝ → Report ℝ → Prop}
    (h : ∀ r r', P r r' → r'.tag = r.tag ∧ r'.frame = r.frame) :
    (Program.tableSink (α := ℝ)).Indifferent (fun s s' => s'.blank = s.blank) P := by
  intro r r' hr s s' hs
  obtain ⟨htag, hframe⟩ := h r r' hr
  obtain ⟨hresult, hsink⟩ := TableSink.publish_blank htag hframe hs
  exact ⟨hresult.symm, hsink⟩

theorem tableSink_indifferent [NumberText ℝ] :
    (Program.tableSink (α := ℝ)).Indifferent (fun s s' => s'.blank = s.blank) Report.Mirrored :=
  tableSink_indifferent_of fun _ _ h => ⟨h.outcome.tag, h.frame⟩

/-- The convention of the azimuth shows in the azimuths and in the signs of the tilts of the axis,
and in nothing else of a run with a model for azimuth and altitude. This holds for every sink that
does not look at them, and a folder of tables is one. -/
theorem run_inConvention [NumberText ℝ] (run : PointingRun ℝ) (store : ObservationStore ℝ)
    (hmodel : ∀ m, run.config.pointingModel run.registry = .ok m →
      m = AltAzimuth.basic ∨ m = AltAzimuth.harmonic) :
    (∀ (σ : Type) (R : σ → σ → Prop) (sink : Sink σ ℝ), sink.Indifferent R Report.Mirrored →
      Agree R RunSummary.Mirrored ((run.inConvention .northEast).run store sink)
        ((run.inConvention .southWest).run store sink)) ∧
    Agree (fun s s' => s'.blank = s.blank) RunSummary.Mirrored
      ((run.inConvention .northEast).run store Program.tableSink)
      ((run.inConvention .southWest).run store Program.tableSink) :=
  ⟨fun _ _ _ hsink => run.run_agree store hmodel hsink,
    run.run_agree store hmodel tableSink_indifferent⟩

noncomputable def measuredStar : StoredObservation ℝ :=
  ⟨1, 1, -1, none, none, some 1, some (-1), "2021-01-01T03:00:00", -50, 650, 0, none⟩

theorem run_inConvention_standard : letI := roundedText
    let run := PointingRun.make RunConfig.standard .standard
    (∀ m, run.config.pointingModel run.registry = .ok m →
      m = AltAzimuth.basic ∨ m = AltAzimuth.harmonic) ∧
    Running.Agree (fun s s' => s'.blank = s.blank) RunSummary.Mirrored
      ((run.inConvention .northEast).run (.ofList [measuredStar]) Program.tableSink)
      ((run.inConvention .southWest).run (.ofList [measuredStar]) Program.tableSink) := by
  intro run
  have hmodel : ∀ m, run.config.pointingModel run.registry = .ok m →
      m = AltAzimuth.basic ∨ m = AltAzimuth.harmonic := by
    intro m hm
    have hcreate := ModelRegistry.create_basic (α := ℝ) ⟨run.config.site.latitudeAngle⟩
    change (ModelRegistry.standard.create AltAzimuth.basicName _ >>= _) = _ at hm
    rw [hcreate] at hm
    exact .inl (Except.ok.inj hm).symm
  exact ⟨hmodel, (@run_inConvention roundedText run _ hmodel).2⟩

end TelescopePointing
