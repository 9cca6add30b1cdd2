import TelescopePointing.Config.Basic
import TelescopePointing.Observation.Pairing
import TelescopePointing.Run.Session

namespace TelescopePointing

variable {σ α : Type} [Scalar α] [NumberText α]

/-- A run with its options, the models it may use and the settings of its fits. -/
structure PointingRun (α : Type) where
  config : RunConfig α
  registry : ModelRegistry α
  solver : LeastSquares.Settings α
  log : LogTarget

/-- The result of a run. A refit is there when it was asked for and its subset has stars. -/
structure RunSummary (α : Type) where
  read : Nat
  skipped : Nat
  pairs : List (StarPair α)
  all : FitOutcome α
  selected : Option (FitOutcome α)
  dropped : Option (FitOutcome α)

namespace PointingRun

def make (config : RunConfig α) (log : LogTarget) : PointingRun α :=
  ⟨config, .standard, .standard, log⟩

/-- Look at the options before anything is opened. -/
def check (run : PointingRun α) : Except RunError Unit :=
  RunStage.configuration.attempt (run.config.check run.registry)

def startRecord (run : PointingRun α) (model : PointingModel α) : LogRecord :=
  let c := run.config
  let parts := [s!"model {model.name}", s!"{c.strategy.name} engine", s!"{c.frame.label} frame",
    s!"mount source {c.mountSource.label}"]
  run.log.record .info ("pointing run: " ++ String.intercalate ", " parts)

/-- Read the observations of a store. A store without any usable one is an error. -/
def loadObservations (run : PointingRun α) (store : ObservationStore α) (site : Site α) :
    Running σ α (List (Observation α) × Batch α) := do
  let c := run.config
  Running.opened store.description
  let batch ← Running.attempt .loading
    (Batch.load store site (some c.limit) c.mountSource run.log)
  Running.logged [Batch.openRecord store c.mountSource run.log]
  let outcome := batch.outcome
  Running.logged outcome.records
  let observations ← Running.attempt .loading outcome.observations
  let batch := outcome.batch
  let counts := s!"({batch.read} entries read, {batch.skipped} skipped)"
  if observations.isEmpty then
    throw ⟨.loading, .emptyInput s!"no usable observation in {store.description} {counts}"⟩
  Running.logged [run.log.record .info s!"{observations.length} observations loaded {counts}"]
  return (observations, batch)

def engine (run : PointingRun α) : Engine :=
  .make run.config.strategy run.config.convention run.log

def makePairs (run : PointingRun α) (observations : List (Observation α)) :
    Running σ α (List (StarPair α)) := do
  let frame := run.config.frame
  let result := StarPair.ofObservations observations run.engine frame
  Running.logged (StarPair.records observations run.engine frame run.log result)
  Running.attempt .transform result

/-- Fit a model to all of some pairs and derive the rest from the fit. -/
def analyse (run : PointingRun α) (model : PointingModel α) (pairs : List (StarPair α))
    (tag : String) : Running σ α (FitOutcome α) := do
  let indices := List.range pairs.length
  let result := ModelFit.fit pairs indices model run.solver
  Running.logged (ModelFit.records (run.log.child "fit") pairs indices result)
  let fitted ← Running.attempt .modelFit result
  let c := run.config
  let outcome ← Running.attempt .projection
    (FitOutcome.ofFit tag pairs fitted c.bins c.thresholdAngle)
  Running.logged (outcome.records run.log c.threshold)
  return outcome

def analyseAndPublish (run : PointingRun α) (sink : Sink σ α) (model : PointingModel α)
    (pairs : List (StarPair α)) (tag : String) : Running σ α (FitOutcome α) := do
  let outcome ← run.analyse model pairs tag
  Running.publish sink { outcome with frame := run.config.frame }
  return outcome

/-- Fit the model again to the pairs of a subset, unless it is empty. -/
def refit (run : PointingRun α) (sink : Sink σ α) (model : PointingModel α)
    (pairs : List (StarPair α)) (indices : List Nat) (tag subset : String) :
    Running σ α (Option (FitOutcome α)) := do
  if indices.isEmpty then
    Running.logged [run.log.record .warn s!"no {subset} stars, skipping the refit"]
    return none
  else
    let chosen := indices.filterMap fun i => pairs[i]?
    return some (← run.analyseAndPublish sink model chosen s!"{tag}_{subset}")

/-- Run on the observations of a store. The fit of all pairs is published first, then the refits of
the selected and of the dropped stars if they are asked for. -/
def run (run : PointingRun α) (store : ObservationStore α) (sink : Sink σ α) :
    Running σ α (RunSummary α) := do
  let c := run.config
  Running.attempt .configuration (c.check run.registry)
  let model ← Running.attempt .configuration (c.pointingModel run.registry)
  let site ← Running.attempt .configuration c.checkedSite
  Running.logged [run.startRecord model]
  let (observations, batch) ← run.loadObservations store site
  let pairs ← run.makePairs observations
  let tag := s!"{model.tag}_{c.strategy.tag}"
  let all ← run.analyseAndPublish sink model pairs tag
  if c.refitSubsets then
    let selected ← run.refit sink model pairs all.selection.selected tag "selected"
    let dropped ← run.refit sink model pairs all.selection.dropped tag "dropped"
    return ⟨batch.read, batch.skipped, pairs, all, selected, dropped⟩
  else return ⟨batch.read, batch.skipped, pairs, all, none, none⟩

def runFile (run : PointingRun α) (d : Disk) (sink : Sink σ α) : Running σ α (RunSummary α) :=
  run.run (ObservationFile.store d run.config.observationPath) sink

end PointingRun

end TelescopePointing
