import TelescopePointing.Config.Reading
import TelescopePointing.Log

namespace TelescopePointing

variable {α : Type} [Scalar α] [NumberText α]

abbrev LogFilter := Option LogLevel

namespace LogFilter

def label : LogFilter → String
  | some level => level.label
  | none => "OFF"

def all : List LogFilter := none :: [LogLevel.error, .warn, .info, .debug, .trace].map some

/-- Names of levels are read without regard to the case of their letters. -/
def ofName? (text : String) : Option LogFilter :=
  all.find? fun f => f.label == String.ofList (text.toList.map Char.toUpper)

def apply (f : LogFilter) (records : List LogRecord) : List LogRecord :=
  match f with
  | some level => LogRecord.upTo level records
  | none => []

end LogFilter

/-- What a command line asks for. An option that was not given is absent. -/
structure Arguments (α : Type) where
  config : Option String
  level : LogFilter
  toConsole : Bool
  basePath : Option String
  observationFile : Option String
  strategy : Option Strategy
  model : Option String
  longitude : Option α
  latitude : Option α
  height : Option α
  astrometric : Bool
  equatorialFit : Bool
  tPoint : Bool
  harmonics : Bool
  bins : Option Nat
  limit : Option Nat
  threshold : Option α
  refitSubsets : Bool
  delete : List Nat

/-- A number in which a leading `m` stands for a minus sign, which would start an option. -/
def signedNumber (read : String → Except String α) (text : String) : Except String α :=
  let value := match text.toList with
    | 'm' :: rest => (read (String.ofList rest)).map fun x => -x
    | _ => read text
  value.mapError fun fault => s!"{text}: {fault}"

namespace Arguments

def standard : Arguments α where
  config := none
  level := some .info
  toConsole := false
  basePath := none
  observationFile := none
  strategy := none
  model := none
  longitude := none
  latitude := none
  height := none
  astrometric := false
  equatorialFit := false
  tPoint := false
  harmonics := false
  bins := none
  limit := none
  threshold := none
  refitSubsets := false
  delete := []

/-- The options of a run: those of the configuration file, if one is named, with the options of the
command line in their place. -/
def override (a : Arguments α) (c : RunConfig α) : RunConfig α where
  basePath := a.basePath.getD c.basePath
  observationFile := a.observationFile.getD c.observationFile
  strategy := a.strategy.getD c.strategy
  convention := c.convention
  model := a.model <|> c.model
  site :=
    { longitude := a.longitude.getD c.site.longitude
      latitude := a.latitude.getD c.site.latitude
      height := a.height.getD c.site.height }
  astrometric := c.astrometric || a.astrometric
  equatorialFit := c.equatorialFit || a.equatorialFit
  tPoint := c.tPoint || a.tPoint
  harmonics := c.harmonics || a.harmonics
  bins := a.bins.getD c.bins
  limit := a.limit.getD c.limit
  threshold := a.threshold.getD c.threshold
  refitSubsets := c.refitSubsets || a.refitSubsets

def runConfig (a : Arguments α) (d : Disk) : Except PointingError (RunConfig α) :=
  match a.config with
  | some path => (RunConfig.ofFile d path).map a.override
  | none => .ok (a.override .standard)

end Arguments

end TelescopePointing
