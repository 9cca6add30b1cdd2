import TelescopePointing.Decimal.Numeral
import TelescopePointing.Text.Character
import TelescopePointing.Time.Instant

namespace TelescopePointing.DateText

/-- The parts of a written date, in the order in which they are read. -/
inductive Part where
  | year
  | month
  | day
  | hour
  | minute
  | second
  | fraction
  | offsetHours
  | offsetMinutes
  | scale
  deriving DecidableEq

inductive Fault where
  | tooShort
  | separator (after : Char)
  | number
  | outOfRange
  | noSuchDate
  | noSuchScale

def Fault.message : Fault → String
  | tooShort => "too short for a date"
  | separator after => s!"unexpected character {after}"
  | number => "a number is missing or too large"
  | outOfRange => "a value is out of range"
  | noSuchDate => "no such day or second"
  | noSuchScale => "unknown or unsupported time scale"

/-- What has been read of a date. Parts that are not given are zero. -/
structure Fields where
  year : Nat := 0
  month : Nat := 0
  day : Nat := 0
  hour : Nat := 0
  minute : Nat := 0
  second : Nat := 0
  nanosecond : Nat := 0
  offsetHours : Nat := 0
  offsetMinutes : Nat := 0
  west : Bool := false
  scale : TimeScale := .utc

/-- The part that follows when a separator ends a part. -/
def Part.after (p : Part) (c : Char) : Except Fault Part :=
  match p, c with
  | year, '-' => .ok month
  | month, '-' => .ok day
  | day, 'T' | day, ' ' => .ok hour
  | hour, ':' => .ok minute
  | minute, ':' => .ok second
  | second, '.' => .ok fraction
  | second, ' ' | second, 'Z' | fraction, ' ' | fraction, 'Z'
  | offsetMinutes, ' ' | offsetMinutes, 'Z' => .ok scale
  | second, '+' | second, '-' | fraction, '+' | fraction, '-' => .ok offsetHours
  | offsetHours, ':' => .ok offsetMinutes
  | _, c => .error (.separator c)

/-- The largest value that may be written for a part; the calendar is asked later. For a year the
days of as many common years since 1900 have thirty-one bits. -/
def Part.limit : Part → Nat
  | year => 1900 + 2147483647 / 365
  | month => 13
  | day => 31
  | hour | offsetHours => 23
  | minute | offsetMinutes => 59
  | second => 60
  | _ => 2147483647

/-- The nanoseconds of a fraction. More digits than there are nanoseconds count as nothing. -/
def fractionValue (ds : List Char) : Nat :=
  if 9 < ds.length then 0 else Decimal.digitsValue ds * Nat.pow 10 (9 - ds.length)

def Fields.enter (f : Fields) (p : Part) (ds : List Char) : Except Fault Fields :=
  let n := Decimal.digitsValue ds
  if ds.isEmpty || !ds.all Char.isDigit || 2147483647 < n then .error .number
  else if p.limit < n then .error .outOfRange
  else match p with
    | .year => .ok { f with year := n }
    | .month => .ok { f with month := n }
    | .day => .ok { f with day := n }
    | .hour => .ok { f with hour := n }
    | .minute => .ok { f with minute := n }
    | .second => .ok { f with second := n }
    | .fraction => .ok { f with nanosecond := fractionValue ds }
    | .offsetHours => .ok { f with offsetHours := n }
    | .offsetMinutes => .ok { f with offsetMinutes := n }
    | .scale => .ok f

def scaleNamed (cs : List Char) : Except Fault TimeScale :=
  match String.ofList (Text.trimChars cs) with
  | "GPS" => .ok .gpst
  | name => match TimeScale.ofLabel? name with
    | some s => .ok s
    | none => .error .noSuchScale

/-- Whether a character is the last of a text and takes one byte of it. -/
def isLastByte (c : Char) (rest : List Char) : Bool := rest.isEmpty && c.utf8Size = 1

/-- Read the characters of a date. A run of digits ends at a character that stands for no number, or
with the text. The first character after the sign of an offset is passed over. A last character of
one byte where a time scale could stand is not looked at. -/
def scan (p : Part) (run : List Char) (skip : Bool) (f : Fields) :
    List Char → Except Fault Fields
  | [] => .ok f
  | c :: rest =>
    let longer := if skip then run else run ++ [c]
    if Text.isNumeric c && !isLastByte c rest then scan p longer false f rest
    else if p = .scale then
      if isLastByte c rest then .ok f
      else (scaleNamed (c :: rest)).map fun s => { f with scale := s }
    else if Text.isNumeric c then f.enter p longer
    else do
      let next ← p.after c
      let f ← f.enter p run
      scan next [] (next = .offsetHours) { f with west := f.west || next = .offsetHours && c = '-' }
        rest

/-- The date of the fields if the calendar has it. A sixty-first second belongs to universal time
and to the days that end with one; it is read as the second before it. -/
def Fields.instant (f : Fields) : Except Fault Instant :=
  let d : Calendar.Date := ⟨f.year, f.month, f.day⟩
  let leap := f.scale = .utc && LeapSecond.endsDay d && f.hour = 23 && f.minute = 59
  if !d.isValid || (f.second = 60 && !leap) then .error .noSuchDate
  else
    let second : Int := f.hour * 3600 + f.minute * 60 + min f.second 59
    let clock :=
      Calendar.dayNumber d * nanosecondsPerDay + second * nanosecondsPerSecond + f.nanosecond
    let elapsed := Instant.bounded (clock - f.scale.origin)
    let offset : Int := (f.offsetHours * 3600 + f.offsetMinutes * 60) * nanosecondsPerSecond
    .ok ⟨Instant.bounded (if f.west then elapsed + offset else elapsed - offset), f.scale⟩

inductive Count where
  | julianDays
  | modifiedDays
  | seconds

/-- A number of units, each of some nanoseconds, cut to whole nanoseconds. An undefined number is
none. -/
def units (x nanoseconds : Float) (s : TimeScale) : Instant :=
  let product := x * nanoseconds
  ⟨Instant.bounded (if product.isNaN then 0 else Binary64.truncate product), s⟩

/-- What a scale has counted. Modified days count from day 15020, and days have to be finite. -/
def Count.instant (k : Count) (x : Float) (s : TimeScale) : Except Fault Instant :=
  let days (d : Float) : Except Fault Instant :=
    if x.isFinite then .ok (units d 86400000000000.0 s) else .error .number
  match k, s with
  | .julianDays, .tai | .julianDays, .utc => days (x - 15020.0 - 2400000.5)
  | .modifiedDays, .tai | .modifiedDays, .utc | .modifiedDays, .gpst => days (x - 15020.0)
  | .seconds, s => .ok (units x 1000000000.0 s)
  | _, _ => .error .noSuchScale

/-- The last three characters name the time scale, the number stands before it. -/
def readCount (k : Count) (cs : List Char) : Except Fault Instant := do
  let s ← scaleNamed (cs.drop (cs.length - 3))
  let body := String.ofList (Text.trimChars (cs.take (cs.length - s.label.length)))
  match Decimal.readFloat body with
  | .ok x => k.instant x s
  | .error _ => .error .number

def read (cs : List Char) : Except Fault Instant :=
  if (String.ofList cs).utf8ByteSize < 7 then .error .tooShort
  else match cs with
    | 'J' :: 'D' :: rest => readCount .julianDays rest
    | 'M' :: 'J' :: 'D' :: rest => readCount .modifiedDays rest
    | 'S' :: 'E' :: 'C' :: rest => readCount .seconds rest
    | cs => scan .year [] false {} cs >>= Fields.instant

end TelescopePointing.DateText
