import TelescopePointing.Error
import TelescopePointing.Log
import TelescopePointing.Model.Basic
import TelescopePointing.Sky.Position

namespace TelescopePointing

variable {α : Type} [Scalar α] [NumberText α]

/-- The catalog position of a star with every correction and the position that the mount reported,
in one frame. -/
structure StarPair (α : Type) where
  catalog : SkyPosition α
  mount : SkyPosition α
  id : Nat
  image : Option String

/-- Where a star is and by how much the mount missed it. -/
structure RawOffset (α : Type) where
  longitude : α
  latitude : α
  longitudeDifference : α
  latitudeDifference : α

/-- Catalog minus mount; the longitude is brought into `[-π, π)`. -/
def StarPair.rawOffset (p : StarPair α) : RawOffset α :=
  ⟨p.catalog.longitude, p.catalog.latitude,
    Angle.signed (p.catalog.longitude - p.mount.longitude),
    p.catalog.latitude - p.mount.latitude⟩

namespace ModelFit

def residuals (m : PointingModel α) (offsets : List (RawOffset α)) :
    LeastSquares.Residuals α := fun p =>
  offsets.flatMap fun o =>
    [m.longitudeResidual p o.longitude o.latitude o.longitudeDifference,
      m.latitudeResidual p o.longitude o.latitude o.latitudeDifference]

/-- The selected indices that name one of `n` pairs, each once and in ascending order. -/
def validIndices (n : Nat) (selected : List Nat) : List Nat :=
  (List.range n).filter fun i => selected.contains i

/-- The distinct selected indices that name no pair. -/
def strayIndices (n : Nat) (selected : List Nat) : List Nat :=
  (selected.filter fun i => n ≤ i).eraseDups

/-- The model with the parameters that fit all of some pairs best. -/
def onPairs (pairs : List (StarPair α)) (m : PointingModel α)
    (settings : LeastSquares.Settings α) : FittedModel α :=
  let r := LeastSquares.minimize (residuals m (pairs.map StarPair.rawOffset)) m.start settings
  ⟨m, r.parameters, r.status, r.iterations, r.cost, pairs.length⟩

/-- Fit a model to the selected pairs. A fit that does not converge still answers with the best
parameters found. -/
def fit (pairs : List (StarPair α)) (selected : List Nat) (m : PointingModel α)
    (settings : LeastSquares.Settings α) : Except PointingError (FittedModel α) :=
  if pairs.isEmpty then .error (.emptyInput "no observation pairs to fit")
  else
    let subset := (validIndices pairs.length selected).filterMap fun i => pairs[i]?
    if subset.isEmpty then
      .error (.emptyInput s!"no selected observation for model {m.name}")
    else .ok (onPairs subset m settings)

def outcomeRecord (log : LogTarget) (f : FittedModel α) : LogRecord :=
  let name := f.model.name
  let points := s!"on {f.pointCount} points"
  match f.status with
  | .converged =>
    log.record .info s!"{name} fitted {points} in {f.iterations} iterations, rms {f.rmsText}"
  | status =>
    log.record .warn
      s!"{name} fit {points} did not converge ({status.label}), keeping best parameters"

def records (log : LogTarget) (pairs : List (StarPair α)) (selected : List Nat)
    (result : Except PointingError (FittedModel α)) : List LogRecord :=
  let stray := (strayIndices pairs.length selected).length
  let warning :=
    if pairs.isEmpty || stray = 0 then []
    else [log.record .warn
      s!"ignoring {stray} selected indices past the {pairs.length} available pairs"]
  let outcome := match result with
    | .ok f => outcomeRecord log f :: f.namedParameters.map fun p => log.record .debug p.text
    | .error _ => []
  warning ++ outcome

end ModelFit

end TelescopePointing
