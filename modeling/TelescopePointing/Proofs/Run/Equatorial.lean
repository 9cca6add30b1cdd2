import TelescopePointing.Proofs.Engine.HourAngle
import TelescopePointing.Proofs.Run.Cost

namespace TelescopePointing

namespace PointingRun

variable [NumberText ℝ] {σ : Type} {run : PointingRun ℝ}

def withConvention (run : PointingRun ℝ) (c : Option AzimuthConvention) : PointingRun ℝ :=
  { run with config := { run.config with convention := c } }

variable (c c' : Option AzimuthConvention)

/-- Neither the pairs of hour angles nor the records about them show the convention. -/
theorem makePairs_withConvention (hequatorial : run.config.isEquatorial = true)
    (observations : List (Observation ℝ)) :
    (run.withConvention c').makePairs (σ := σ) observations =
      (run.withConvention c).makePairs observations := by
  have hengine : ∀ c : Option AzimuthConvention, (run.withConvention c).engine =
      run.engine.inConvention (c.getD run.config.strategy.defaultConvention) := fun _ => rfl
  have hframe : ∀ c, (run.withConvention c).config.frame = .hourAngle := fun _ => if_pos hequatorial
  have hpairs := StarPair.ofObservations_hourAngle run.engine
    (c.getD run.config.strategy.defaultConvention) (c'.getD run.config.strategy.defaultConvention)
    observations
  simp only [makePairs, hengine, hframe, hpairs]
  rfl

theorem run_withConvention (hequatorial : run.config.isEquatorial = true)
    (store : ObservationStore ℝ) (sink : Sink σ ℝ) :
    (run.withConvention c').run store sink = (run.withConvention c).run store sink := by
  have hpairs := makePairs_withConvention (σ := σ) c c' hequatorial
  unfold PointingRun.run
  rw [funext hpairs]
  rfl

end PointingRun

/-- The hour angle that is found through the horizon is one for all conventions of the azimuth, and
so an equatorial run is the same in all of them: its result, its records and what its sink gets. -/
theorem run_equatorial [NumberText ℝ] (run : PointingRun ℝ)
    (hequatorial : run.config.isEquatorial = true) :
    (∀ (e : Engine) (star : SkyPosition ℝ) (instant : Instant) (site : Site ℝ)
      (air : Atmosphere ℝ) (correct : Bool) (c c' : AzimuthConvention),
      Alike SkyPosition.SameHourAngle
        ((e.inConvention c).toHorizon star instant site air correct)
        ((e.inConvention c').toHorizon star instant site air correct) ∧
      (site.check = .ok () → ∀ time : ResolvedTime ℝ,
        ResolvedTime.resolve instant = .ok time → ∀ d : Engine, ∃ horizon hourAngle,
          (e.inConvention c).toHorizon star instant site air correct = .ok horizon ∧
          d.toHourAngle horizon instant site = .ok hourAngle)) ∧
    (∀ (e : Engine) (observations : List (Observation ℝ)) (c c' : AzimuthConvention),
      StarPair.ofObservations observations (e.inConvention c') .hourAngle =
        StarPair.ofObservations observations (e.inConvention c) .hourAngle) ∧
    ∀ (σ : Type) (store : ObservationStore ℝ) (sink : Sink σ ℝ) (c c' : Option AzimuthConvention),
      (run.withConvention c').run store sink = (run.withConvention c).run store sink := by
  refine ⟨fun e star instant site air correct c c' => ⟨?_, fun hsite time htime d => ?_⟩,
    fun e observations c c' => StarPair.ofObservations_hourAngle e c c' observations,
    fun σ store sink c c' => PointingRun.run_withConvention c c' hequatorial store sink⟩
  · exact e.toHorizon_sameHourAngle c c' star instant site air correct
  · exact (e.inConvention c).exists_hourAngle hsite htime d star air correct

noncomputable def equatorial : PointingRun ℝ :=
  .make { RunConfig.standard with equatorialFit := true } .standard

theorem run_equatorial_standard : letI := roundedText
    let e : Engine := .make .rigorous none .standard
    equatorial.config.isEquatorial = true ∧ measured.site.check = .ok () ∧
    ResolvedTime.resolve measured.instant = .ok (.ofInstant (α := ℝ) measured.instant) ∧
    (∃ horizon hourAngle,
      (e.inConvention .southWest).toHorizon measured.catalog measured.instant measured.site
        measured.air true = .ok horizon ∧
      e.toHourAngle horizon measured.instant measured.site = .ok hourAngle) ∧
    (equatorial.withConvention none).run (.ofList [measuredStar]) tagSink =
      (equatorial.withConvention (some .southWest)).run (.ofList [measuredStar]) tagSink := by
  let := roundedText
  intro e
  have hequatorial : equatorial.config.isEquatorial = true := rfl
  have hsite : measured.site.check = .ok () := standardSite_check
  have htime : ResolvedTime.resolve measured.instant =
      .ok (.ofInstant (α := ℝ) measured.instant) :=
    ResolvedTime.resolve_ofInstant (by decide) (by decide)
  obtain ⟨hhorizon, -, hrun⟩ := run_equatorial equatorial hequatorial
  obtain ⟨-, hexists⟩ := hhorizon e measured.catalog measured.instant measured.site measured.air
    true .southWest .northEast
  exact ⟨hequatorial, hsite, htime, hexists hsite _ htime e, hrun _ _ tagSink _ _⟩

end TelescopePointing
