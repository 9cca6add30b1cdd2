import TelescopePointing.Angle
import TelescopePointing.LeastSquares.Solver

namespace TelescopePointing

variable {α : Type} [Scalar α] [NumberText α]

/-- The pair of coordinates in which a mount is compared with the catalog. -/
inductive FitFrame where
  | horizon
  | hourAngle
  deriving DecidableEq

def FitFrame.axes : FitFrame → String
  | horizon => "az_alt"
  | hourAngle => "ha_dec"

def FitFrame.label : FitFrame → String
  | horizon => "AltAz"
  | hourAngle => "HA/Dec"

/-- The offsets of a mount from a true position, as functions of a list of parameters, a longitude
and a latitude. The longitude offset is one on the sky. -/
structure PointingModel (α : Type) where
  name : String
  tag : String
  frame : FitFrame
  parameterNames : List String
  longitudeOffset : List α → α → α → α
  latitudeOffset : List α → α → α → α

namespace PointingModel

def start (m : PointingModel α) : List α := m.parameterNames.map fun _ => 0.0

/-- What the model leaves of a difference in longitude, on the sky. -/
def longitudeResidual (m : PointingModel α) (p : List α) (longitude latitude difference : α) : α :=
  difference * Scalar.cos latitude - m.longitudeOffset p longitude latitude

def latitudeResidual (m : PointingModel α) (p : List α) (longitude latitude difference : α) : α :=
  difference - m.latitudeOffset p longitude latitude

end PointingModel

/-- The sines and cosines of a position and of its doubled longitude. -/
structure Bearing (α : Type) where
  sinLongitude : α
  cosLongitude : α
  sinLatitude : α
  cosLatitude : α
  sinDouble : α
  cosDouble : α

def Bearing.of (longitude latitude : α) : Bearing α where
  sinLongitude := Scalar.sin longitude
  cosLongitude := Scalar.cos longitude
  sinLatitude := Scalar.sin latitude
  cosLatitude := Scalar.cos latitude
  sinDouble := Scalar.sin (2.0 * longitude)
  cosDouble := Scalar.cos (2.0 * longitude)

/-- What one parameter, given by its place in the list, adds to the offset along an axis. -/
structure Term (α : Type) where
  place : Nat
  effect : α → Bearing α → α

def Term.value (p : List α) (b : Bearing α) (t : Term α) : α := t.effect (p.getD t.place 0.0) b

/-- What the terms of one axis add up to, from the first to the last. -/
def Term.total (p : List α) (b : Bearing α) : List (Term α) → α
  | [] => 0.0
  | t :: rest => rest.foldl (fun sum u => sum + u.value p b) (t.value p b)

/-- The terms of a model along either axis. -/
structure AxisTerms (α : Type) where
  longitude : List (Term α)
  latitude : List (Term α)

def AxisTerms.append (first second : AxisTerms α) : AxisTerms α :=
  ⟨first.longitude ++ second.longitude, first.latitude ++ second.latitude⟩

def PointingModel.ofTerms (name tag : String) (frame : FitFrame) (parameterNames : List String)
    (terms : AxisTerms α) : PointingModel α where
  name := name
  tag := tag
  frame := frame
  parameterNames := parameterNames
  longitudeOffset p longitude latitude := Term.total p (.of longitude latitude) terms.longitude
  latitudeOffset p longitude latitude := Term.total p (.of longitude latitude) terms.latitude

structure ModelOptions (α : Type) where
  siteLatitude : α

structure Parameter (α : Type) where
  name : String
  value : α

def Parameter.text (p : Parameter α) : String :=
  let arcseconds := NumberText.fixed 3 (Angle.toDegrees p.value * 3600.0)
  s!"{p.name}={arcseconds}\""

structure FittedModel (α : Type) where
  model : PointingModel α
  parameters : List α
  status : FitStatus
  iterations : Nat
  cost : α
  pointCount : Nat

namespace FittedModel

def longitudeResidual (f : FittedModel α) (longitude latitude difference : α) : α :=
  f.model.longitudeResidual f.parameters longitude latitude difference

def latitudeResidual (f : FittedModel α) (longitude latitude difference : α) : α :=
  f.model.latitudeResidual f.parameters longitude latitude difference

def namedParameters (f : FittedModel α) : List (Parameter α) :=
  List.zipWith Parameter.mk f.model.parameterNames f.parameters

/-- The root mean square of the residuals; every point has two. -/
def rms (f : FittedModel α) : α :=
  if f.pointCount = 0 then 0.0 else Scalar.sqrt (f.cost / Scalar.ofNat (2 * f.pointCount))

def rmsText (f : FittedModel α) : String :=
  NumberText.fixed 2 (Angle.toDegrees f.rms * 3600.0) ++ "\""

end FittedModel

end TelescopePointing
