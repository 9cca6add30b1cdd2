import TelescopePointing.Proofs.Engine.RoundTrip
import TelescopePointing.Proofs.Observation.Batch
import TelescopePointing.Proofs.Run.Convention
import TelescopePointing.Proofs.Run.Success
import TelescopePointing.Proofs.Time.Resolved

namespace TelescopePointing

/-- The outcomes of a summary account for their pairs; those of the refits are the pairs whose stars
the fit of all pairs has selected or dropped. -/
structure RunSummary.AccountsFor (threshold : ℝ) (s : RunSummary ℝ) : Prop where
  all : s.all.AccountsFor s.pairs threshold
  selected : ∀ o ∈ s.selected, o.AccountsFor
    (s.all.selection.selected.filterMap fun i => s.pairs[i]?) threshold
  dropped : ∀ o ∈ s.dropped, o.AccountsFor
    (s.all.selection.dropped.filterMap fun i => s.pairs[i]?) threshold

theorem PointingRun.run_ensures [NumberText ℝ] {σ : Type} (run : PointingRun ℝ) (sink : Sink σ ℝ)
    (store : ObservationStore ℝ)
    (hmodel : ∀ m, run.config.pointingModel run.registry = .ok m → m.StartsAtRest)
    (s : Session σ ℝ) (summary : RunSummary ℝ) (t : Session σ ℝ)
    (hrun : (run.run store sink).run s = (.ok summary, t)) :
    summary.AccountsFor run.config.thresholdAngle := by
  obtain ⟨_, events, _, hcourse⟩ := PointingRun.course_of_run hrun
  cases hcourse with
  | @completed all selected dropped _ _ _ _ p rest h _ hselected hdropped _ _ =>
    have hm := hmodel p.model p.configured
    refine ⟨FitOutcome.ofFit_accountsFor hm h, fun o ho => ?_, fun o ho => ?_⟩
    · exact FitOutcome.ofFit_accountsFor hm (p.analysis_of_refit hselected ho)
    · exact FitOutcome.ofFit_accountsFor hm (p.analysis_of_refit hdropped ho)

/-- What a run reports as the cost of a fit is what the reported points add up to. No fit of a model
for a mount is worse than no model, and every selected star takes its part of the cost. -/
theorem run_accountsFor [NumberText ℝ] {σ : Type} (run : PointingRun ℝ)
    (store : ObservationStore ℝ) (sink : Sink σ ℝ)
    (hmodel : ∀ m, run.config.pointingModel run.registry = .ok m →
      ∃ name options, ModelRegistry.standard.create name options = .ok m)
    {s t : Session σ ℝ} {summary : RunSummary ℝ}
    (hrun : (run.run store sink).run s = (.ok summary, t)) :
    summary.AccountsFor run.config.thresholdAngle := by
  have hrest : ∀ m, run.config.pointingModel run.registry = .ok m → m.StartsAtRest := by
    intro m hm
    obtain ⟨name, options, hcreate⟩ := hmodel m hm
    exact startsAtRest_mountModels ((mem_mountModels_iff options m).mpr ⟨name, hcreate⟩)
  exact run.run_ensures sink store hrest s summary t hrun

def tagSink : Sink (List String) ℝ := ⟨fun r tags => ⟨.ok (), tags ++ [r.tag], []⟩⟩

theorem tagSink_takesAll : tagSink.TakesAll := fun _ _ => rfl

noncomputable def refitting : PointingRun ℝ :=
  .make { RunConfig.standard with refitSubsets := true } .standard

theorem refitting_pointingModel :
    refitting.config.pointingModel refitting.registry = .ok AltAzimuth.basic := by
  change (ModelRegistry.standard.create AltAzimuth.basicName _ >>= _) = _
  rw [ModelRegistry.create_basic]
  rfl

/-- Two measured stars and one that is skipped. -/
noncomputable def threeStars : List (StoredObservation ℝ) :=
  [measuredStar,
    { measuredStar with id := 2, catalogAscension := measuredStar.catalogAscension + 1 },
    { measuredStar with id := 3, centroidAscension := none }]

theorem threeStars_date : ∀ o ∈ threeStars, o.date = measuredStar.date := by simp [threeStars]

theorem threeStars_room : threeStars.length ≤ refitting.config.limit := by
  change 3 ≤ 10000000
  decide

section Example

variable [NumberText ℝ]

theorem standardSite_check : (RunConfig.standardSite (α := ℝ)).check = .ok () :=
  (Site.check_eq_ok_iff _).mpr (by norm_num [RunConfig.standardSite])

theorem refitting_check : refitting.config.check refitting.registry = .ok () := by
  refine RunConfig.check_eq_ok (by decide) (by decide) ?_ standardSite_check
    refitting_pointingModel
  change (Scalar.isFinite (30.0 : ℝ) && decide ((0.0 : ℝ) ≤ 30.0)) = true
  norm_num

noncomputable def measured : Observation ℝ where
  id := 1
  catalog := .catalog 1 (-1) ⟨3818458800000000000, .utc⟩
  mount := .catalog 1 (-1) ⟨3818458800000000000, .utc⟩
  air := ⟨measuredStar.temperature, measuredStar.pressure, measuredStar.humidity⟩
  site := RunConfig.standardSite
  instant := ⟨3818458800000000000, .utc⟩
  image := none

theorem decode_measuredStar :
    measuredStar.decode (1, -1) RunConfig.standardSite = .ok measured := by
  have hdate : Instant.parse measuredStar.date = .ok ⟨3818458800000000000, .utc⟩ := rfl
  have hfinite : ((measuredStar.measurements (1, -1)).find? fun m => !Scalar.isFinite m.2) =
      none := by
    simp
  rw [StoredObservation.decode, hfinite, hdate]
  rfl

theorem decode_of_date {o : StoredObservation ℝ} (h : o.date = measuredStar.date) (mount : ℝ × ℝ)
    (site : Site ℝ) : ∃ x, o.decode mount site = .ok x ∧ x.instant = measured.instant := by
  have hdate : Instant.parse o.date = .ok measured.instant := by
    rw [h]
    rfl
  have hfinite : ((o.measurements mount).find? fun m => !Scalar.isFinite m.2) = none := by simp
  rw [StoredObservation.decode, hfinite, hdate]
  exact ⟨_, rfl, rfl⟩

theorem exists_pair {o : Observation ℝ} (hsite : o.site.check = .ok ())
    (hinstant : o.instant = measured.instant) (e : Engine) :
    ∃ pair, o.pair e .horizon = .ok pair := by
  have htime : ResolvedTime.resolve o.instant = .ok (.ofInstant (α := ℝ) o.instant) := by
    rw [hinstant]
    exact ResolvedTime.resolve_ofInstant (by decide) (by decide)
  simp only [Observation.pair, Observation.place, Engine.toHorizon, Engine.standing, hsite, htime]
  exact ⟨_, rfl⟩

theorem exists_preparation {rows : List (StoredObservation ℝ)}
    (hdate : ∀ o ∈ rows, o.date = measuredStar.date) (hmeasured : measuredStar ∈ rows)
    (hroom : rows.length ≤ refitting.config.limit) :
    Nonempty (refitting.Preparation (.ofList rows)) := by
  have hdecodes : ∀ o ∈ rows, o.Decodes .centroid RunConfig.standardSite := fun o ho mount _ =>
    (decode_of_date (hdate o ho) mount _).imp fun _ h => h.1
  obtain ⟨batch, hload, hobservations, -, -⟩ := Batch.load_ofList hroom hdecodes refitting.log
  have hne : rows.filterMap (·.usable? .centroid RunConfig.standardSite) ≠ [] := by
    have husable : measuredStar.usable? .centroid RunConfig.standardSite = some measured := by
      change (measuredStar.decode (1, -1) RunConfig.standardSite).toOption = _
      rw [decode_measuredStar]
      rfl
    exact List.ne_nil_of_mem (List.mem_filterMap.mpr ⟨measuredStar, hmeasured, husable⟩)
  have hpair : ∀ x ∈ rows.filterMap (·.usable? .centroid RunConfig.standardSite),
      ∃ pair, x.pair refitting.engine .horizon = .ok pair := by
    intro x hx
    obtain ⟨o, ho, hox⟩ := List.mem_filterMap.mp hx
    obtain ⟨mount, -, hdecoded⟩ := Option.bind_eq_some_iff.mp hox
    obtain ⟨y, hy, hinstant⟩ := decode_of_date (hdate o ho) mount RunConfig.standardSite
    rw [hy] at hdecoded
    obtain rfl : y = x := Option.some.inj hdecoded
    refine exists_pair ?_ hinstant _
    rw [StoredObservation.decode_eq_ok hy]
    exact standardSite_check
  exact ⟨⟨⟨refitting_check, batch, _, hload, hobservations, hne⟩, _, _, refitting_pointingModel,
    mapM_eq_ok_iff_filterMap.mpr ⟨hpair, rfl⟩⟩⟩

theorem refitting_prepared : Nonempty (refitting.Preparation (.ofList threeStars)) :=
  exists_preparation threeStars_date List.mem_cons_self threeStars_room

theorem refitting_succeeds :
    Running.Succeeds (fun _ => True) (refitting.run (.ofList threeStars) tagSink) := by
  obtain ⟨ready⟩ := refitting_prepared
  exact PointingRun.run_succeeds ready tagSink_takesAll

end Example

theorem run_accountsFor_refits : letI := roundedText
    (∀ m, refitting.config.pointingModel refitting.registry = .ok m →
      ∃ name options, ModelRegistry.standard.create name options = .ok m) ∧
    ∃ summary t, (refitting.run (.ofList threeStars) tagSink).run (.start []) =
        (.ok summary, t) ∧ summary.AccountsFor refitting.config.thresholdAngle := by
  let := roundedText
  have hmodel : ∀ m, refitting.config.pointingModel refitting.registry = .ok m →
      ∃ name options, ModelRegistry.standard.create name options = .ok m := by
    intro m hm
    rw [refitting_pointingModel] at hm
    exact ⟨AltAzimuth.basicName, ⟨0⟩, hm ▸ ModelRegistry.create_basic _⟩
  obtain ⟨summary, t, hrun, _⟩ := refitting_succeeds (.start [])
  exact ⟨hmodel, summary, t, hrun, run_accountsFor refitting _ tagSink hmodel hrun⟩

end TelescopePointing
