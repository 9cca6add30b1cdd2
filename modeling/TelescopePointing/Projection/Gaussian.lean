import TelescopePointing.LeastSquares.Solver
import TelescopePointing.Projection.Histogram

namespace TelescopePointing

variable {α : Type} [Scalar α]

structure ProjectionFit (α : Type) where
  mean : α
  spread : α
  /-- The height in counts of a bin. -/
  peak : α
  status : FitStatus

namespace ProjectionFit

def bell (x mean spread peak : α) : α :=
  peak * Scalar.exp (-Scalar.square (x - mean) / (2.0 * spread * spread))

/-- What a bell curve leaves of the counts. The parameters are its mean, spread and peak. -/
def residuals (h : Histogram α) : LeastSquares.Residuals α
  | [mean, spread, peak] => List.zipWith (fun x n => n - bell x mean spread peak) h.centres h.counts
  | _ => []

/-- The fit starts at zero, with the spread and the height of the histogram. -/
def start (h : Histogram α) : List α :=
  let rms := h.weightedRms
  [0.0, if 0.0 < rms then rms else h.width, h.peak]

def ofHistogram (h : Histogram α) : ProjectionFit α :=
  let r := LeastSquares.minimize (residuals h) (start h) .standard
  { mean := r.parameters.getD 0 0.0
    spread := Scalar.abs (r.parameters.getD 1 0.0)
    peak := r.parameters.getD 2 0.0
    status := r.status }

/-- Whether a number comes before another one. A negative zero comes before zero. -/
def precedes (x y : α) : Bool := x < y || (x == y && 1.0 / x < 1.0 / y)

def lowest (v : α) (values : List α) : α :=
  values.foldl (fun a b => if precedes b a then b else a) v

def highest (v : α) (values : List α) : α :=
  values.foldl (fun a b => if precedes a b then b else a) v

/-- Fit a bell curve to some values. When all of them are equal there is nothing to fit. -/
def ofValues (values : List α) (bins : Nat) : Except PointingError (ProjectionFit α) :=
  if bins = 0 then .error Histogram.noBins
  else if values.any fun v => !Scalar.isFinite v then
    .error (.invalidConfiguration "projection values must be finite")
  else match values with
    | [] => .error (.emptyInput "no values to project")
    | v :: rest =>
      let low := lowest v rest
      let high := highest v rest
      if high - low == 0.0 then .ok ⟨low, 0.0, Scalar.ofNat values.length, .converged⟩
      else (Histogram.ofValues values low high bins).map ofHistogram

end ProjectionFit

end TelescopePointing
