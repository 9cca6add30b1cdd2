import TelescopePointing.Error
import TelescopePointing.Model.Mounts
import TelescopePointing.Text.Quoted

namespace TelescopePointing

variable {α : Type} [Scalar α]

abbrev ModelFactory (α : Type) := ModelOptions α → PointingModel α

/-- The models that a fit can ask for, by name and in the order of their names. -/
structure ModelRegistry (α : Type) where
  entries : List (String × ModelFactory α)

namespace ModelRegistry

def empty : ModelRegistry α := ⟨[]⟩

/-- Whether a name stands before another. The first characters that differ decide, and the beginning
of a name stands before the whole. -/
def precedes : List Char → List Char → Bool
  | _, [] => false
  | [], _ :: _ => true
  | c :: cs, d :: ds => c.toNat < d.toNat || (c = d && precedes cs ds)

/-- Put a name into its place, or replace what stands under it. -/
def insertEntry (name : String) (factory : ModelFactory α) :
    List (String × ModelFactory α) → List (String × ModelFactory α)
  | [] => [(name, factory)]
  | e :: rest =>
    if precedes name.toList e.1.toList then (name, factory) :: e :: rest
    else if name = e.1 then (name, factory) :: rest
    else e :: insertEntry name factory rest

def register (r : ModelRegistry α) (name : String) (factory : ModelFactory α) : ModelRegistry α :=
  ⟨insertEntry name factory r.entries⟩

def names (r : ModelRegistry α) : List String := r.entries.map (·.1)

def text (r : ModelRegistry α) : String := Text.quoteAll r.names

def contains (r : ModelRegistry α) (name : String) : Bool := r.names.contains name

def factory? (r : ModelRegistry α) (name : String) : Option (ModelFactory α) :=
  r.entries.lookup name

def create (r : ModelRegistry α) (name : String) (options : ModelOptions α) :
    Except PointingError (PointingModel α) :=
  match r.factory? name with
  | some factory => .ok (factory options)
  | none =>
    let known := String.intercalate ", " r.names
    .error (.unknownModel s!"{name} (available: {known})")

def standard : ModelRegistry α :=
  ((empty.register AltAzimuth.basicName fun _ => AltAzimuth.basic).register
    AltAzimuth.harmonicName fun _ => AltAzimuth.harmonic).register
    Equatorial.name fun o => Equatorial.model o.siteLatitude

end ModelRegistry

end TelescopePointing
