import TelescopePointing.Engine.Transform
import TelescopePointing.Fit
import TelescopePointing.Observation.Batch

namespace TelescopePointing

variable {α : Type} [Scalar α] [NumberText α]

namespace Observation

/-- The horizon position of one side of an observation, brought into a frame. Hour angles are
reached through the horizon. -/
def place (o : Observation α) (e : Engine) (star : SkyPosition α) (air : Atmosphere α)
    (correct : Bool) : FitFrame → Except PointingError (SkyPosition α)
  | .horizon => e.toHorizon star o.instant o.site air correct
  | .hourAngle => do
    let horizon ← e.toHorizon star o.instant o.site air correct
    e.toHourAngle horizon o.instant o.site

/-- The catalog side gets every correction. The mount side gets none: the mount has seen the star
through the air as it is. -/
def pair (o : Observation α) (e : Engine) (frame : FitFrame) : Except PointingError (StarPair α) :=
  do
    let catalog ← o.place e o.catalog o.air true frame
    let mount ← o.place e o.mount .vacuum false frame
    return ⟨catalog, mount, o.id, o.image⟩

end Observation

namespace StarPair

def ofObservations (observations : List (Observation α)) (e : Engine) (frame : FitFrame) :
    Except PointingError (List (StarPair α)) :=
  observations.mapM fun o => o.pair e frame

/-- The records of the corrections that were made, and of the count of pairs if all were made. -/
def records (observations : List (Observation α)) (e : Engine) (frame : FitFrame) (log : LogTarget)
    (result : Except PointingError (List (StarPair α))) : List LogRecord :=
  let standings := observations.map fun o => e.standing o.catalog o.instant o.site o.air true
  let corrections := (standings.takeWhile Except.isOk).flatMap fun s =>
    match s with
    | .ok standing => e.records standing
    | .error _ => []
  let total := match result with
    | .ok pairs =>
      let engine := s!"the {e.strategy.name} engine"
      [log.record .info
        s!"transformed {pairs.length} observations to {frame.label} with {engine}"]
    | .error _ => []
  corrections ++ total

end StarPair

end TelescopePointing
