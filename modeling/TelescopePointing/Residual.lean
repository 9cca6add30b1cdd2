import TelescopePointing.Fit

namespace TelescopePointing

variable {α : Type} [Scalar α]

/-- A star with the raw difference of its mount position and what a fitted model leaves of it. -/
structure ResidualPoint (α : Type) where
  catalog : SkyPosition α
  mount : SkyPosition α
  longitudeDifference : α
  latitudeDifference : α
  longitudeResidual : α
  latitudeResidual : α
  id : Nat
  image : Option String

namespace ResidualPoint

def distanceSquared (p : ResidualPoint α) : α :=
  p.latitudeResidual * p.latitudeResidual + p.longitudeResidual * p.longitudeResidual

def ofPair (f : FittedModel α) (pair : StarPair α) : ResidualPoint α :=
  let o := pair.rawOffset
  { catalog := pair.catalog
    mount := pair.mount
    longitudeDifference := o.longitudeDifference
    latitudeDifference := o.latitudeDifference
    longitudeResidual := f.longitudeResidual o.longitude o.latitude o.longitudeDifference
    latitudeResidual := f.latitudeResidual o.longitude o.latitude o.latitudeDifference
    id := pair.id
    image := pair.image }

/-- Every pair gets its point, also one that took no part in the fit. -/
def ofPairs (pairs : List (StarPair α)) (f : FittedModel α) : List (ResidualPoint α) :=
  pairs.map (ofPair f)

end ResidualPoint

/-- The quantities of a point that statistics are made of. -/
inductive ResidualAxis where
  | longitudeDifference
  | latitudeDifference
  | longitudeResidual
  | latitudeResidual
  deriving DecidableEq

namespace ResidualAxis

def all : List ResidualAxis :=
  [longitudeDifference, latitudeDifference, longitudeResidual, latitudeResidual]

def name : ResidualAxis → String
  | longitudeDifference => "difference_lon"
  | latitudeDifference => "difference_lat"
  | longitudeResidual => "residual_lon"
  | latitudeResidual => "residual_lat"

def value (a : ResidualAxis) (p : ResidualPoint α) : α :=
  match a with
  | longitudeDifference => p.longitudeDifference
  | latitudeDifference => p.latitudeDifference
  | longitudeResidual => p.longitudeResidual
  | latitudeResidual => p.latitudeResidual

def arcseconds (a : ResidualAxis) (points : List (ResidualPoint α)) : List α :=
  points.map fun p => a.value p / Angle.arcsecond

end ResidualAxis

/-- The indices of the points whose residual distance exceeds a threshold, and those of the rest.
The selected stars are the ones worth a closer look. -/
structure Selection where
  selected : List Nat
  dropped : List Nat

def exceeds (threshold : α) (p : ResidualPoint α) : Bool :=
  threshold * threshold < p.distanceSquared

/-- Both lists of indices ascend. -/
def Selection.ofPoints (points : List (ResidualPoint α)) (threshold : α) : Selection :=
  let marked := points.zipIdx
  { selected := (marked.filter fun (p, _) => exceeds threshold p).map (·.2)
    dropped := (marked.filter fun (p, _) => !exceeds threshold p).map (·.2) }

end TelescopePointing
