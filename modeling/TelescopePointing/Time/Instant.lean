import TelescopePointing.Decimal.Rounding
import TelescopePointing.Scalar
import TelescopePointing.Time.Calendar

namespace TelescopePointing

inductive TimeScale where
  | utc
  | tai
  | tt
  | gpst
  deriving DecidableEq

def TimeScale.label : TimeScale → String
  | utc => "UTC"
  | tai => "TAI"
  | tt => "TT"
  | gpst => "GPST"

def TimeScale.ofLabel? (text : String) : Option TimeScale :=
  [utc, tai, tt, gpst].find? fun s => s.label == text

def nanosecondsPerSecond : Int := 1000000000

def nanosecondsPerDay : Int := 86400 * nanosecondsPerSecond

/-- Where the count of a time scale starts on its own clock, in nanoseconds from the start of 1900.
The global positioning scale counts from the sixth of January 1980. -/
def TimeScale.origin : TimeScale → Int
  | gpst => Calendar.dayNumber ⟨1980, 1, 6⟩ * nanosecondsPerDay
  | _ => 0

namespace LeapSecond

/-- Years at whose first of July universal time was set back by one second. -/
def julyYears : List Int := [1972, 1981, 1982, 1983, 1985, 1992, 1993, 1994, 1997, 2012, 2015]

/-- Years at whose first of January universal time was set back. -/
def januaryYears : List Int :=
  [1972, 1973, 1974, 1975, 1976, 1977, 1978, 1979, 1980, 1988, 1990, 1991, 1996, 1999, 2006, 2009,
    2017]

/-- The day numbers from which one more second counts. -/
def days : List Int :=
  julyYears.map (fun y => Calendar.dayNumber ⟨y, 7, 1⟩) ++
    januaryYears.map fun y => Calendar.dayNumber ⟨y, 1, 1⟩

/-- Nanoseconds by which a second begins early, because readings are compared in whole parts of a
second of which there are two to the twenty-first, and a reading goes to the nearest of them. -/
def resolution : Int := 238

/-- Seconds between atomic and universal time at a clock reading in nanoseconds. The first entry of
1972 stands for ten seconds. -/
def count (reading : Int) : Int :=
  let passed := days.countP fun d => d * nanosecondsPerDay ≤ reading + resolution
  if passed = 0 then 0 else passed + 9

/-- Whether the last minute of a day has a sixty-first second. -/
def endsDay (d : Calendar.Date) : Bool :=
  d.month == 6 && d.day == 30 && julyYears.contains d.year ||
    d.month == 12 && d.day == 31 && januaryYears.contains (d.year + 1)

end LeapSecond

/-- A moment: the nanoseconds that a time scale has counted since its origin. -/
structure Instant where
  elapsed : Int
  scale : TimeScale
  deriving DecidableEq

namespace Instant

/-- No count is longer than this many nanoseconds, which are 32768 Julian centuries. -/
def longest : Int := 32768 * 36525 * nanosecondsPerDay

/-- A count that would be too long stays at the longest of its sign. -/
def bounded (count : Int) : Int := max (-longest) (min longest count)

/-- Nanoseconds from the start of 1900 as the clock of the scale shows them. -/
def clock (t : Instant) : Int := bounded (t.elapsed + t.scale.origin)

def atomicClock (t : Instant) : Int :=
  match t.scale with
  | .utc => bounded (t.clock + LeapSecond.count t.clock * nanosecondsPerSecond)
  | .tai => t.clock
  | .tt => bounded (t.clock - 32184000000)
  | .gpst => bounded (t.clock + 19 * nanosecondsPerSecond)

def universalClock (t : Instant) : Int :=
  match t.scale with
  | .utc => t.clock
  | _ => bounded (t.atomicClock - LeapSecond.count t.atomicClock * nanosecondsPerSecond)

def terrestrialClock (t : Instant) : Int :=
  match t.scale with
  | .tt => t.clock
  | _ => bounded (t.atomicClock + 32184000000)

def date (t : Instant) : Calendar.Date := Calendar.ofDayNumber (t.clock / nanosecondsPerDay)

/-- Digits of a whole number behind its sign; the width counts the sign. -/
def digits (width : Nat) (n : Int) : String :=
  if n < 0 then "-" ++ String.ofList (Decimal.padded (width - 1) n.natAbs)
  else String.ofList (Decimal.padded width n.natAbs)

/-- The date, the time of day and the scale, with nanoseconds only when there are some. -/
def text (t : Instant) : String :=
  let d := t.date
  let second := t.clock % nanosecondsPerDay / nanosecondsPerSecond
  let fraction := t.clock % nanosecondsPerSecond
  let clock := s!"{digits 2 (second / 3600)}:{digits 2 (second / 60 % 60)}:{digits 2 (second % 60)}"
  let part := if fraction = 0 then "" else "." ++ digits 9 fraction
  s!"{digits 4 d.year}-{digits 2 d.month}-{digits 2 d.day}T{clock}{part} {t.scale.label}"

variable {α : Type} [Scalar α]

/-- Days of a clock reading from the start of the modified Julian count. The centuries, seconds and
nanoseconds of the reading are added in this order, and 1900 begins on day 15020. -/
def modifiedDays (clock : Int) : α :=
  let count := bounded (clock + 15020 * nanosecondsPerDay)
  let perCentury := 36525 * nanosecondsPerDay
  let century := count / perCentury
  let rest := count % perCentury
  let seconds : α := Scalar.ofInt (rest / nanosecondsPerSecond)
  let part : α := Scalar.ofInt (rest % nanosecondsPerSecond) * 1e-9
  let total :=
    if century = 0 then seconds + part
    else Scalar.ofInt century * 3155760000.0 + seconds + part
  total * (1.0 / 86400.0)

end Instant

end TelescopePointing
