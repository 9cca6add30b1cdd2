namespace TelescopePointing

/-- What can go wrong, with the reason in words. -/
inductive PointingError where
  | invalidSite (reason : String)
  | invalidTime (reason : String)
  | sourceUnavailable (reason : String)
  | emptyInput (reason : String)
  | configurationConflict (reason : String)
  | invalidConfiguration (reason : String)
  | unknownModel (reason : String)
  | unknownStrategy (reason : String)
  | fileFault (reason : String)
  | tableFault (reason : String)
  | configurationSyntax (reason : String)

namespace PointingError

def message : PointingError → String
  | invalidSite reason => "Invalid site location: " ++ reason
  | invalidTime reason => "Invalid observation time: " ++ reason
  | sourceUnavailable reason => "Observation source unavailable: " ++ reason
  | emptyInput reason => "Empty input: " ++ reason
  | configurationConflict reason => "Mutually exclusive options requested: " ++ reason
  | invalidConfiguration reason => "Invalid configuration value: " ++ reason
  | unknownModel reason => "Unknown pointing model: " ++ reason
  | unknownStrategy reason => "Unknown transform strategy: " ++ reason
  | fileFault reason => "Unable to perform file operation: " ++ reason
  | tableFault reason => "CSV error: " ++ reason
  | configurationSyntax reason => "Unable to parse configuration file: " ++ reason

/-- Two errors are the same when their causes and reasons agree. The reason of a fault in a file is
the system's and does not count. -/
def same : PointingError → PointingError → Bool
  | invalidSite a, invalidSite b
  | invalidTime a, invalidTime b
  | sourceUnavailable a, sourceUnavailable b
  | emptyInput a, emptyInput b
  | configurationConflict a, configurationConflict b
  | invalidConfiguration a, invalidConfiguration b
  | unknownModel a, unknownModel b
  | unknownStrategy a, unknownStrategy b => a == b
  | fileFault _, fileFault _
  | tableFault _, tableFault _
  | configurationSyntax _, configurationSyntax _ => true
  | _, _ => false

instance : BEq PointingError := ⟨same⟩

def isEmptyInput : PointingError → Bool
  | emptyInput _ => true
  | _ => false

/-- A coordinate that was set to an undefined number after the site was built. -/
def undefinedCoordinate : PointingError := invalidSite "NaN coordinate"

end PointingError

/-- The step of a run at which a fatal error happened. -/
inductive RunStage where
  | configuration
  | loading
  | transform
  | modelFit
  | projection
  | output
  deriving DecidableEq

def RunStage.label : RunStage → String
  | configuration => "configuration"
  | loading => "loading"
  | transform => "frame transform"
  | modelFit => "model fit"
  | projection => "projection fit"
  | output => "output"

structure RunError where
  stage : RunStage
  cause : PointingError

def RunError.message (e : RunError) : String :=
  e.stage.label ++ " failed: " ++ e.cause.message

/-- Attach the stage at which a step failed. -/
def RunStage.attempt {β : Type} (stage : RunStage) : Except PointingError β → Except RunError β
  | .ok x => .ok x
  | .error e => .error ⟨stage, e⟩

end TelescopePointing
