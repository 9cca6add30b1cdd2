import TelescopePointing.Disk
import TelescopePointing.Engine.Strategy
import TelescopePointing.Model.Registry
import TelescopePointing.Observation.Row
import TelescopePointing.Site

namespace TelescopePointing

variable {α : Type} [Scalar α] [NumberText α]

/-- The options of a run. The observation file is looked for below the base folder, which also
receives the tables. -/
structure RunConfig (α : Type) where
  basePath : String
  observationFile : String
  strategy : Strategy
  convention : Option AzimuthConvention
  /-- Without a name the model follows from the kind of fit. -/
  model : Option String
  site : Site α
  astrometric : Bool
  equatorialFit : Bool
  /-- Another name under which an equatorial fit is asked for. -/
  tPoint : Bool
  /-- Fit the second harmonics of azimuth too. -/
  harmonics : Bool
  bins : Nat
  /-- How many rows are read at most. -/
  limit : Nat
  /-- The residual in arcseconds beyond which a star is selected. -/
  threshold : α
  refitSubsets : Bool

namespace RunConfig

def standardSite : Site α := ⟨123.2994166666666, -75.1, 3237.0⟩

def standard : RunConfig α where
  basePath := "/tmp/u_point/"
  observationFile := "analyzed_positions.anl"
  strategy := .rigorous
  convention := none
  model := none
  site := standardSite
  astrometric := false
  equatorialFit := false
  tPoint := false
  harmonics := false
  bins := 40
  limit := 10000000
  threshold := 30.0
  refitSubsets := false

def isEquatorial (c : RunConfig α) : Bool := c.equatorialFit || c.tPoint

def frame (c : RunConfig α) : FitFrame := if c.isEquatorial then .hourAngle else .horizon

def mountSource (c : RunConfig α) : MountSource :=
  if c.astrometric then .astrometric else .centroid

def modelName (c : RunConfig α) : String :=
  match c.model with
  | some name => name
  | none =>
    if c.isEquatorial then Equatorial.name
    else if c.harmonics then AltAzimuth.harmonicName
    else AltAzimuth.basicName

def observationPath (c : RunConfig α) : String := Path.join c.basePath c.observationFile

def thresholdAngle (c : RunConfig α) : α := c.threshold * Angle.arcsecond

/-- The site, if its coordinates are in range. -/
def checkedSite (c : RunConfig α) : Except PointingError (Site α) :=
  Site.make c.site.longitude c.site.latitude c.site.height

/-- The model that is asked for, if it works in the frame of the fit. -/
def pointingModel (c : RunConfig α) (registry : ModelRegistry α) :
    Except PointingError (PointingModel α) := do
  let model ← registry.create c.modelName ⟨c.site.latitudeAngle⟩
  if model.frame = c.frame then return model
  else
    .error (.configurationConflict
      s!"model {model.name} works in {model.frame.label} but the fit is in {c.frame.label}")

/-- Options are looked at in this order: a conflict of fits, the count of bins, the threshold, the
site and the model. -/
def check (c : RunConfig α) (registry : ModelRegistry α) : Except PointingError Unit := do
  if c.isEquatorial && c.harmonics then
    .error (.configurationConflict "fit_eq (or t_point) and fit_plus_poly are mutually exclusive")
  else if c.bins = 0 then .error (.invalidConfiguration "bins must be at least 1")
  else if !(Scalar.isFinite c.threshold && 0.0 ≤ c.threshold) then
    let value := NumberText.plain c.threshold
    .error (.invalidConfiguration
      s!"selection threshold must be a non-negative number of arcseconds, got {value}")
  else
    let _site ← c.checkedSite
    (c.pointingModel registry).map fun _ => ()

end RunConfig

end TelescopePointing
