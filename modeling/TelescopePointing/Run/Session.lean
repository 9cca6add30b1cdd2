import TelescopePointing.Report.Tables

namespace TelescopePointing

/-- What can be seen of a run from outside. -/
inductive RunEvent (α : Type) where
  | logged (r : LogRecord)
  | opened (description : String)
  | published (r : Report α) (taken : Bool)

/-- A receiver of reports, with a state of its own. -/
structure Sink (σ α : Type) where
  publish : Report α → σ → SinkStep σ

structure Session (σ α : Type) where
  sink : σ
  events : List (RunEvent α)

/-- A run stops at its first error, and its session stays as it is then. -/
abbrev Running (σ α : Type) := ExceptT RunError (StateM (Session σ α))

variable {σ α β : Type}

def Session.start (sink : σ) : Session σ α := ⟨sink, []⟩

def Session.note (s : Session σ α) (events : List (RunEvent α)) : Session σ α :=
  { s with events := s.events ++ events }

def Session.records (s : Session σ α) : List LogRecord :=
  s.events.filterMap fun e =>
    match e with
    | .logged r => some r
    | _ => none

namespace Running

def logged (records : List LogRecord) : Running σ α Unit :=
  modify fun s => s.note (records.map .logged)

def opened (description : String) : Running σ α Unit := modify fun s => s.note [.opened description]

/-- Go on with a result, or stop with its error at a stage of the run. -/
def attempt (stage : RunStage) (x : Except PointingError β) : Running σ α β :=
  match stage.attempt x with
  | .ok y => pure y
  | .error e => throw e

def publish (sink : Sink σ α) (r : Report α) : Running σ α Unit := do
  let s ← get
  let step := sink.publish r s.sink
  let taken := step.result.isOk
  set ({ s with sink := step.sink }.note (.published r taken :: step.records.map .logged))
  attempt .output step.result

end Running

end TelescopePointing
