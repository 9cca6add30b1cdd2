namespace TelescopePointing.Calendar

def isLeapYear (year : Int) : Bool := year % 4 == 0 && (year % 100 != 0 || year % 400 == 0)

def monthLength (year : Int) (month : Nat) : Nat :=
  match month with
  | 2 => if isLeapYear year then 29 else 28
  | 4 | 6 | 9 | 11 => 30
  | _ => 31

/-- A day of the calendar, whose leap years are reckoned back before its introduction. -/
structure Date where
  year : Int
  month : Nat
  day : Nat
  deriving DecidableEq

def Date.isValid (d : Date) : Bool :=
  1 ≤ d.month && d.month ≤ 12 && 1 ≤ d.day && d.day ≤ monthLength d.year d.month

/-- Days from the first of March of the year zero. Years are counted from March, so that the day
which a leap year adds is the last of its year. -/
def marchDay (d : Date) : Int :=
  let y := if d.month ≤ 2 then d.year - 1 else d.year
  let m : Int := if d.month ≤ 2 then d.month + 9 else d.month - 3
  365 * y + y / 4 - y / 100 + y / 400 + (153 * m + 2) / 5 + (d.day - 1)

def dayNumber (d : Date) : Int := marchDay d - marchDay ⟨1900, 1, 1⟩

/-- The day with a given number: its 400 years, then the year in March reckoning, then the month. -/
def ofDayNumber (n : Int) : Date :=
  let z := n + marchDay ⟨1900, 1, 1⟩
  let cycle := z / 146097
  let inCycle := z % 146097
  let year := (inCycle - inCycle / 1460 + inCycle / 36524 - inCycle / 146096) / 365
  let inYear := inCycle - (365 * year + year / 4 - year / 100)
  let m := (5 * inYear + 2) / 153
  let day := inYear - (153 * m + 2) / 5 + 1
  let month := if m < 10 then m + 3 else m - 9
  let january := if month ≤ 2 then 1 else 0
  ⟨cycle * 400 + year + january, month.toNat, day.toNat⟩

end TelescopePointing.Calendar
