import TelescopePointing.Config.Basic
import TelescopePointing.Yaml.Document
import TelescopePointing.Yaml.Reading

namespace TelescopePointing

open Yaml (Document Node Fault readField)

variable {α : Type} [Scalar α] [NumberText α]

namespace RunConfig

def strategyNames : List (String × Strategy) :=
  [Strategy.rigorous, Strategy.legacy].flatMap fun s => s.names.map fun name => (name, s)

def conventionNames : List (String × AzimuthConvention) :=
  [("north_east", .northEast), ("south_west", .southWest)]

def readSite (n : Node) : Except Fault (Site α) := do
  let fields ← n.fields
  let site : Site α := standardSite
  return {
    longitude := ← readField fields "longitude" site.longitude Node.number
    latitude := ← readField fields "latitude" site.latitude Node.number
    height := ← readField fields "height" site.height Node.number }

/-- The options in a document. A key that is absent keeps its default, and an unknown key does not
matter. -/
def ofNode (n : Node) : Except Fault (RunConfig α) := do
  let fields ← n.fields
  let c : RunConfig α := standard
  return {
    basePath := ← readField fields "base_path" c.basePath Node.string
    observationFile := ← readField fields "analyzed_positions" c.observationFile Node.string
    strategy := ← readField fields "strategy" c.strategy (Node.choice strategyNames)
    convention := ← readField fields "azimuth_convention" c.convention
      (Node.optional (Node.choice conventionNames))
    model := ← readField fields "model" c.model (Node.optional Node.string)
    site := ← readField fields "site" c.site readSite
    astrometric := ← readField fields "fit_astr" c.astrometric Node.boolean
    equatorialFit := ← readField fields "fit_eq" c.equatorialFit Node.boolean
    tPoint := ← readField fields "t_point" c.tPoint Node.boolean
    harmonics := ← readField fields "fit_plus_poly" c.harmonics Node.boolean
    bins := ← readField fields "bins" c.bins Node.count
    limit := ← readField fields "break_after" c.limit Node.count
    threshold := ← readField fields "threshold_arcsec" c.threshold Node.number
    refitSubsets := ← readField fields "refit_subsets" c.refitSubsets Node.boolean }

/-- The options in a document, whose keys and values may be aliases on both of its levels. -/
def ofDocument (d : Document) : Except Fault (RunConfig α) := ofNode (d.unfold 3 d.root)

def ofText (text : String) : Except PointingError (RunConfig α) :=
  match Document.ofText text >>= ofDocument with
  | .ok c => .ok c
  | .error fault => .error (.configurationSyntax fault.message)

def ofFile (d : Disk) (path : String) : Except PointingError (RunConfig α) :=
  match d.read path with
  | .ok text => ofText text
  | .error fault => .error (.fileFault fault.message)

end RunConfig

end TelescopePointing
