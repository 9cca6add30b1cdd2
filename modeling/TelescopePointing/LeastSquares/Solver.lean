import TelescopePointing.LeastSquares.Symmetric

namespace TelescopePointing

/-- How a fit ended: a tolerance was met, the budget ran out, or no step lowered the cost while the
damping passed its limit. -/
inductive FitStatus where
  | converged
  | maxIterations
  | stalled
  deriving DecidableEq

def FitStatus.label : FitStatus → String
  | converged => "converged"
  | maxIterations => "maximum iterations reached"
  | stalled => "stalled"

namespace LeastSquares

variable {α : Type} [Scalar α]

structure Settings (α : Type) where
  maxIterations : Nat
  /-- The relative gain of an accepted step that ends the fit. -/
  costTolerance : α
  /-- The relative length of a step that ends the fit. -/
  stepTolerance : α
  /-- The largest component of the gradient that ends the fit. -/
  gradientTolerance : α
  initialDamping : α
  dampingUp : α
  dampingDown : α
  maxDamping : α
  /-- The relative step of the central differences. -/
  differenceStep : α

def Settings.standard : Settings α where
  maxIterations := 200
  costTolerance := 1e-12
  stepTolerance := 1e-10
  gradientTolerance := 1e-30
  initialDamping := 1e-3
  dampingUp := 10.0
  dampingDown := 0.1
  maxDamping := 1e12
  differenceStep := 6e-6

abbrev Residuals (α : Type) := List α → List α

/-- The column of the Jacobian that belongs to one parameter, by a central difference. The step
grows with the parameter. -/
def jacobianColumn (f : Residuals α) (p : List α) (step : α) (j : Nat) (x : α) : List α :=
  let h := step * Scalar.max (Scalar.abs x) 1.0
  List.zipWith (fun a b => (a - b) / (2.0 * h)) (f (p.set j (x + h))) (f (p.set j (x - h)))

def jacobian (f : Residuals α) (p : List α) (step : α) : List (List α) :=
  p.zipIdx.map fun (x, j) => jacobianColumn f p step j x

/-- Parameters with their residuals and the sum of the squares. -/
structure Point (α : Type) where
  parameters : List α
  residuals : List α
  cost : α

def Point.at (f : Residuals α) (p : List α) : Point α :=
  let r := f p
  ⟨p, r, Scalar.normSquared r⟩

structure State (α : Type) where
  point : Point α
  damping : α

structure Result (α : Type) where
  parameters : List α
  cost : α
  iterations : Nat
  status : FitStatus

def Point.result (x : Point α) (iterations : Nat) (status : FitStatus) : Result α :=
  ⟨x.parameters, x.cost, iterations, status⟩

/-- The weights of the damping: the diagonal, kept away from zero so that a parameter without
influence leaves the matrix regular. -/
def scaling (diagonal : List α) : List α :=
  let floor := Scalar.largest diagonal * 1e-15
  diagonal.map fun d => Scalar.max (Scalar.max d floor) 2.2250738585072014e-308

def gradient (columns : List (List α)) (residuals : List α) : List α :=
  columns.map fun c => Scalar.dot c residuals

def damped (columns : List (List α)) (damping : α) : LowerColumns α :=
  let normal := LowerColumns.gram columns
  normal.addDiagonal ((scaling normal.diagonal).map (damping * ·))

/-- The step that the damped normal equations propose, unless they cannot be factored. -/
def proposal? (columns : List (List α)) (gradient : List α) (damping : α) : Option (List α) :=
  (damped columns damping).cholesky?.map fun factor =>
    (factor.solveFactored gradient).map (- ·)

inductive Trial (α : Type) where
  /-- No component of the gradient exceeds its tolerance. -/
  | flat
  /-- The damped normal equations have no factor. -/
  | singular
  | candidate (step : List α) (point : Point α)

def trial (f : Residuals α) (settings : Settings α) (s : State α) : Trial α :=
  let columns := jacobian f s.point.parameters settings.differenceStep
  let g := gradient columns s.point.residuals
  if Scalar.largest (g.map Scalar.abs) ≤ settings.gradientTolerance then .flat
  else match proposal? columns g s.damping with
    | none => .singular
    | some step => .candidate step (.at f (List.zipWith (· + ·) s.point.parameters step))

def isSmallStep (settings : Settings α) (step parameters : List α) : Bool :=
  Scalar.norm step ≤
    settings.stepTolerance * (Scalar.norm parameters + settings.stepTolerance)

def improves (candidate current : Point α) : Bool :=
  Scalar.isFinite candidate.cost && candidate.cost < current.cost

inductive Progress (α : Type) where
  | go (s : State α)
  | stop (x : Point α) (status : FitStatus)

/-- Keep the point and raise the damping, up to its limit. -/
def raiseDamping (settings : Settings α) (s : State α) : Progress α :=
  let damping := s.damping * settings.dampingUp
  if settings.maxDamping < damping then .stop s.point .stalled else .go ⟨s.point, damping⟩

/-- Move to a better point and lower the damping, unless the point meets a tolerance. -/
def accept (settings : Settings α) (s : State α) (step : List α) (next : Point α) : Progress α :=
  let gain := (s.point.cost - next.cost) / s.point.cost
  if next.cost == 0.0 || gain ≤ settings.costTolerance
      || isSmallStep settings step s.point.parameters then .stop next .converged
  else .go ⟨next, Scalar.max (s.damping * settings.dampingDown) 1e-15⟩

def advance (f : Residuals α) (settings : Settings α) (s : State α) : Progress α :=
  match trial f settings s with
  | .flat => .stop s.point .converged
  | .singular => raiseDamping settings s
  | .candidate step next =>
    if improves next s.point then accept settings s step next
    else if isSmallStep settings step s.point.parameters then .stop s.point .converged
    else raiseDamping settings s

/-- Advance until an iteration ends the fit or the budget is used up. -/
def iterate (f : Residuals α) (settings : Settings α) : Nat → Nat → State α → Result α
  | 0, done, s => s.point.result done .maxIterations
  | budget + 1, done, s =>
    match advance f settings s with
    | .stop x status => x.result (done + 1) status
    | .go next => iterate f settings budget (done + 1) next

/-- Look for the parameters with the least sum of squared residuals. A start without parameters or
without residuals is its own answer. -/
def minimize (f : Residuals α) (initial : List α) (settings : Settings α) : Result α :=
  let start := Point.at f initial
  if start.cost == 0.0 || initial.isEmpty then start.result 0 .converged
  else iterate f settings settings.maxIterations 0 ⟨start, settings.initialDamping⟩

end LeastSquares

end TelescopePointing
