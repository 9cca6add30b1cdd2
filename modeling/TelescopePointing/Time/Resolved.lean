import TelescopePointing.Error
import TelescopePointing.Time.DateText

namespace TelescopePointing

variable {α : Type} [Scalar α] [NumberText α]

/-- A moment on the two clocks that the frame transforms need. Universal time stands for the
rotation of the Earth, from which it never differs by a second. -/
structure ResolvedTime (α : Type) where
  instant : Instant
  universalDays : α
  terrestrialDays : α

namespace ResolvedTime

def epoch2000 : α := 51544.5

def centuriesFrom2000 (days : α) : α := (days - epoch2000) / 36525.0

def julianDay (t : ResolvedTime α) : α := t.universalDays + 2400000.5

def centuries (t : ResolvedTime α) : α := centuriesFrom2000 t.terrestrialDays

/-- Centuries on either side of J2000 for which the series of the Earth's motion are trusted. -/
def reach : α := 10.0

def ofInstant (i : Instant) : ResolvedTime α :=
  ⟨i, Instant.modifiedDays i.universalClock, Instant.modifiedDays i.terrestrialClock⟩

/-- The clocks at a moment, if it lies within reach. -/
def resolve (i : Instant) : Except PointingError (ResolvedTime α) :=
  let t : ResolvedTime α := ofInstant i
  if !Scalar.isFinite t.universalDays || !Scalar.isFinite t.terrestrialDays then
    .error (.invalidTime i.text)
  else if reach < Scalar.abs t.centuries then
    .error (.invalidTime
      s!"{i.text} is {NumberText.fixed 1 t.centuries} centuries from J2000")
  else .ok t

end ResolvedTime

/-- The moment that a text stands for; blanks around it do not count. A text without a time scale is
in universal time. -/
def Instant.parse (text : String) : Except PointingError Instant :=
  match DateText.read (Text.trimChars text.toList) with
  | .ok i => .ok i
  | .error fault => .error (.invalidTime s!"{text}: {fault.message}")

end TelescopePointing
