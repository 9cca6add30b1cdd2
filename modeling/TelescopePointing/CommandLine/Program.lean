import TelescopePointing.CommandLine.Parser
import TelescopePointing.Run.Deletion

namespace TelescopePointing

variable {α : Type} [Scalar α] [NumberText α]

/-- How a program ends: its exit code, what it printed and what it left on the disk. -/
structure ProgramEnd where
  exitCode : UInt32
  output : List String
  errors : List String
  disk : Disk

namespace Program

def failure (d : Disk) (text : String) : ProgramEnd := ⟨1, [], [text], d⟩

def logName : String := "pointfit.log"

/-- The base folder with a new log file in it. A log for the console needs neither. -/
def openLog (a : Arguments α) (basePath : String) (d : Disk) : Except DiskFault Disk := do
  if a.toConsole then return d
  else (← d.createFolder basePath).write (Path.join basePath logName) ""

def summaryLines (s : RunSummary α) (written : List String) : List String :=
  let f := s.all.fitted
  let ending := s!"{f.status.label} ({f.iterations} iterations), rms {f.rmsText}"
  s!"{s.all.tag}: {f.pointCount} points, {ending}" ::
    f.namedParameters.map (fun p => "  " ++ p.text) ++ written.map ("wrote " ++ ·)

def tableSink : Sink TableSink α := ⟨TableSink.publish⟩

def fatal (log : LogTarget) (d : Disk) (records : List LogRecord) (e : RunError) :
    ProgramEnd × List LogRecord :=
  (failure d e.message, records ++ [log.record .error e.message])

/-- The part of the program that needs consistent options and a log, with its records. -/
def work (run : PointingRun α) (ids : List Nat) (d : Disk) : ProgramEnd × List LogRecord :=
  let deletion : Deletion := if ids.isEmpty then ⟨.ok 0, d, []⟩ else run.deleteEntries d ids
  match deletion.result with
  | .error e => fatal run.log deletion.disk deletion.records e
  | .ok _ =>
    let sink := TableSink.make run.config.basePath deletion.disk run.log
    let (result, session) := (run.runFile deletion.disk tableSink).run (Session.start sink)
    let records := deletion.records ++ session.records
    match result with
    | .error e => fatal run.log session.sink.disk records e
    | .ok summary =>
      (⟨0, summaryLines summary session.sink.written, [], session.sink.disk⟩, records)

def logLine (r : LogRecord) : String := s!"[{r.level.label} {r.target}] {r.text}"

/-- Put records into the log file, or before what is printed about errors. -/
def closeLog (a : Arguments α) (basePath : String) (ending : ProgramEnd)
    (records : List LogRecord) : ProgramEnd :=
  let lines := (a.level.apply records).map logLine
  if a.toConsole then { ending with errors := lines ++ ending.errors }
  else
    match ending.disk.write (Path.join basePath logName) (String.join (lines.map (· ++ "\n"))) with
    | .ok disk => { ending with disk := disk }
    | .error _ => ending

/-- Nothing is made or deleted before the options are known to be consistent. -/
def start (a : Arguments α) (d : Disk) : ProgramEnd :=
  match a.runConfig d with
  | .error e => failure d s!"configuration failed: {e.message}"
  | .ok config =>
    let run := PointingRun.make config .standard
    match run.check with
    | .error e => failure d e.message
    | .ok _ =>
      match openLog a config.basePath d with
      | .error fault =>
        failure d s!"unable to set up logging in {config.basePath}: {fault.message}"
      | .ok opened =>
        let (ending, records) := work run a.delete opened
        closeLog a config.basePath ending records

def usage : String := "Usage: pointfit [OPTIONS]"

/-- The whole program, from the words of its command line on. -/
def run (α : Type) [Scalar α] [NumberText α] (words : List String) (d : Disk) : ProgramEnd :=
  match (CommandLine.parse words : Except UsageStop (Arguments α)) with
  | .error .help => ⟨0, [usage], [], d⟩
  | .error .fault => ⟨2, [], [usage], d⟩
  | .ok a => start a d

end Program

end TelescopePointing
