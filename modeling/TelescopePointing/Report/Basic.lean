import TelescopePointing.Projection.Gaussian
import TelescopePointing.Residual

namespace TelescopePointing

variable {α : Type} [Scalar α] [NumberText α]

structure AxisProjection (α : Type) where
  axis : ResidualAxis
  fit : ProjectionFit α

structure FitOutcome (α : Type) where
  tag : String
  fitted : FittedModel α
  points : List (ResidualPoint α)
  selection : Selection
  projections : List (AxisProjection α)

structure Report (α : Type) extends FitOutcome α where
  frame : FitFrame

namespace FitOutcome

def projectionsOf (points : List (ResidualPoint α)) (bins : Nat) :
    Except PointingError (List (AxisProjection α)) :=
  ResidualAxis.all.mapM fun axis =>
    (ProjectionFit.ofValues (axis.arcseconds points) bins).map fun fit => ⟨axis, fit⟩

def ofFit (tag : String) (pairs : List (StarPair α)) (f : FittedModel α) (bins : Nat)
    (threshold : α) : Except PointingError (FitOutcome α) :=
  let points := ResidualPoint.ofPairs pairs f
  (projectionsOf points bins).map fun projections =>
    ⟨tag, f, points, .ofPoints points threshold, projections⟩

def projectionRecord (log : LogTarget) (tag : String) (p : AxisProjection α) : LogRecord :=
  let level := match p.fit.status with
    | .converged => .info
    | _ => .warn
  let mean := NumberText.fixed 2 p.fit.mean
  let spread := NumberText.fixed 2 p.fit.spread
  log.record level
    s!"{tag} {p.axis.name}: mean {mean}\", spread {spread}\" ({p.fit.status.label})"

def records (log : LogTarget) (threshold : α) (o : FitOutcome α) : List LogRecord :=
  let above := o.selection.selected.length
  let below := o.selection.dropped.length
  o.projections.map (projectionRecord log o.tag) ++
    [log.record .info
      s!"{o.tag}: {above} stars above {NumberText.plain threshold}\", {below} below"]

end FitOutcome

end TelescopePointing
