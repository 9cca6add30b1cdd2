namespace TelescopePointing

inductive LogLevel where
  | error
  | warn
  | info
  | debug
  | trace
  deriving DecidableEq

namespace LogLevel

def label : LogLevel → String
  | error => "ERROR"
  | warn => "WARN"
  | info => "INFO"
  | debug => "DEBUG"
  | trace => "TRACE"

/-- Zero for the most severe level. -/
def verbosity : LogLevel → Nat
  | error => 0
  | warn => 1
  | info => 2
  | debug => 3
  | trace => 4

end LogLevel

structure LogRecord where
  level : LogLevel
  target : String
  text : String

/-- The records at a level or a more severe one. -/
def LogRecord.upTo (level : LogLevel) (records : List LogRecord) : List LogRecord :=
  records.filter fun r => r.level.verbosity ≤ level.verbosity

/-- The handle under which a component writes its records. -/
structure LogTarget where
  name : String
  deriving DecidableEq

namespace LogTarget

def standard : LogTarget := ⟨"pointfit"⟩

def child (t : LogTarget) (name : String) : LogTarget := ⟨t.name ++ "::" ++ name⟩

def record (t : LogTarget) (level : LogLevel) (text : String) : LogRecord := ⟨level, t.name, text⟩

end LogTarget

end TelescopePointing
