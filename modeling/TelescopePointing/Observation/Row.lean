import TelescopePointing.Decimal.Numeral
import TelescopePointing.Scalar

namespace TelescopePointing

variable {α : Type} [NumberText α]

/-- Which measurement stands for where the mount pointed. -/
inductive MountSource where
  | astrometric
  | centroid
  deriving DecidableEq

def MountSource.label : MountSource → String
  | astrometric => "Astrometric"
  | centroid => "Centroid"

/-- A star as it is stored: its catalog position, up to two measured positions, the time and the
weather. Angles are in radians. -/
structure StoredObservation (α : Type) where
  id : Nat
  catalogAscension : α
  catalogDeclination : α
  astrometricAscension : Option α
  astrometricDeclination : Option α
  centroidAscension : Option α
  centroidDeclination : Option α
  date : String
  temperature : α
  pressure : α
  humidity : α
  image : Option String

namespace StoredObservation

/-- The measured position, if both of its angles are there. -/
def mount (o : StoredObservation α) : MountSource → Option (α × α)
  | .astrometric => do return (← o.astrometricAscension, ← o.astrometricDeclination)
  | .centroid => do return (← o.centroidAscension, ← o.centroidDeclination)

def columns : List String :=
  ["nml_id", "cat_ra", "cat_dc", "astr_ra", "astr_dc", "sxtr_ra", "sxtr_dc", "dt_utc",
    "temperature", "pressure", "humidity", "image_fn"]

def optionalCell : Option α → String
  | some x => NumberText.cell x
  | none => ""

/-- The cells of an observation in the order of the columns. -/
def cells (o : StoredObservation α) : List String :=
  [toString o.id, NumberText.cell o.catalogAscension, NumberText.cell o.catalogDeclination,
    optionalCell o.astrometricAscension, optionalCell o.astrometricDeclination,
    optionalCell o.centroidAscension, optionalCell o.centroidDeclination, o.date,
    NumberText.cell o.temperature, NumberText.cell o.pressure, NumberText.cell o.humidity,
    o.image.getD ""]

/-- Why the cells of a row are no observation. -/
inductive Fault where
  | missing (column : String)
  | repeated (column : String)
  | number (column : String)

def Fault.message : Fault → String
  | missing column => s!"missing field {column}"
  | repeated column => s!"duplicate field {column}"
  | number column => s!"field {column} is not a number in range"

def cell? (row : List (String × String)) (column : String) : Except Fault (Option String) :=
  match row.filter fun c => c.1 == column with
  | [] => .ok none
  | [c] => .ok (some c.2)
  | _ => .error (.repeated column)

def requiredCell (row : List (String × String)) (column : String) : Except Fault String := do
  match ← cell? row column with
  | some text => .ok text
  | none => .error (.missing column)

def number (row : List (String × String)) (column : String) : Except Fault α := do
  match NumberText.ofCell? (← requiredCell row column) with
  | some x => .ok x
  | none => .error (.number column)

/-- An empty cell and a missing column stand for no number. -/
def optionalNumber (row : List (String × String)) (column : String) : Except Fault (Option α) := do
  match ← cell? row column with
  | none | some "" => .ok none
  | some text => match NumberText.ofCell? text with
    | some x => .ok (some x)
    | none => .error (.number column)

/-- A whole number of base sixteen, with an optional plus sign. -/
def hexValue? : List Char → Option Nat
  | '+' :: ds => Decimal.wholeNumber? 16 ds
  | ds => Decimal.wholeNumber? 16 ds

/-- Numbers of entries have sixty-four bits and may be written in base sixteen. -/
def identifier? (text : String) : Option Nat :=
  match text.toList with
  | '0' :: 'x' :: cs => (hexValue? cs).filter (· < UInt64.size)
  | _ => Decimal.readBounded UInt64.size text

def ofRow (row : List (String × String)) : Except Fault (StoredObservation α) := do
  let some id := identifier? (← requiredCell row "nml_id") | .error (.number "nml_id")
  return {
    id := id
    catalogAscension := ← number row "cat_ra"
    catalogDeclination := ← number row "cat_dc"
    astrometricAscension := ← optionalNumber row "astr_ra"
    astrometricDeclination := ← optionalNumber row "astr_dc"
    centroidAscension := ← optionalNumber row "sxtr_ra"
    centroidDeclination := ← optionalNumber row "sxtr_dc"
    date := ← requiredCell row "dt_utc"
    temperature := ← number row "temperature"
    pressure := ← number row "pressure"
    humidity := ← number row "humidity"
    image := (← cell? row "image_fn").filter (· != "") }

end StoredObservation

end TelescopePointing
