import TelescopePointing.Disk
import TelescopePointing.Report.Basic
import TelescopePointing.Table.Writer

namespace TelescopePointing

variable {α : Type} [Scalar α] [NumberText α]

namespace Artifact

/-- The name of something made for one fit, without an ending. -/
def stem (kind axes tag : String) : String := s!"{kind}_{axes}_{tag}"

def imageName (kind axes tag : String) : String := stem kind axes tag ++ ".png"

def tableName (kind axes tag : String) : String := stem kind axes tag ++ ".csv"

end Artifact

namespace Report

def arcsecondCell (angle : α) : String := NumberText.cell (angle / Angle.arcsecond)

def residualHeader : List String :=
  ["nml_id", "cat_lon", "cat_lat", "mnt_lon", "mnt_lat", "df_lon_arcsec", "df_lat_arcsec",
    "res_lon_arcsec", "res_lat_arcsec", "selected", "image_fn"]

def residualRow (p : ResidualPoint α) (selected : Bool) : List String :=
  [toString p.id, NumberText.cell p.catalog.longitude, NumberText.cell p.catalog.latitude,
    NumberText.cell p.mount.longitude, NumberText.cell p.mount.latitude,
    arcsecondCell p.longitudeDifference, arcsecondCell p.latitudeDifference,
    arcsecondCell p.longitudeResidual, arcsecondCell p.latitudeResidual,
    if selected then "true" else "false", p.image.getD ""]

/-- One row for each point. -/
def residualRows (r : Report α) : List (List String) :=
  r.points.zipIdx.map fun (p, i) => residualRow p (r.selection.selected.contains i)

def projectionHeader : List String :=
  ["axis", "mean_arcsec", "spread_arcsec", "peak", "status"]

def projectionRow (p : AxisProjection α) : List String :=
  [p.axis.name, NumberText.cell p.fit.mean, NumberText.cell p.fit.spread,
    NumberText.cell p.fit.peak, p.fit.status.label]

def parameterHeader : List String := ["name", "value_rad", "value_arcsec"]

def parameterRow (p : Parameter α) : List String :=
  [p.name, NumberText.cell p.value, arcsecondCell p.value]

/-- The tables of a report by the names of their files, in the order in which they are written. -/
def tables (r : Report α) : List (String × List (List String)) :=
  let axes := r.frame.axes
  [(Artifact.tableName "residual" axes r.tag, Table.withHeader residualHeader r.residualRows),
    (Artifact.tableName "projection" axes r.tag,
      Table.withHeader projectionHeader (r.projections.map projectionRow)),
    (Artifact.tableName "parameters" axes r.tag,
      Table.withHeader parameterHeader (r.fitted.namedParameters.map parameterRow))]

end Report

/-- A folder that receives the tables of reports, with the files written so far. -/
structure TableSink where
  folder : String
  disk : Disk
  written : List String
  log : LogTarget

/-- What became of an action on a sink. -/
structure SinkStep (σ : Type) where
  result : Except PointingError Unit
  sink : σ
  records : List LogRecord

namespace TableSink

def make (folder : String) (disk : Disk) (log : LogTarget) : TableSink :=
  ⟨folder, disk, [], log.child "sink"⟩

/-- Write tables until one fails. -/
def write (s : TableSink) : List (String × List (List String)) → SinkStep TableSink
  | [] => ⟨.ok (), s, []⟩
  | (name, rows) :: rest =>
    let path := Path.join s.folder name
    match s.disk.write path (Table.render rows) with
    | .error fault => ⟨.error (.tableFault fault.message), s, []⟩
    | .ok disk =>
      let step := write { s with disk := disk, written := s.written ++ [path] } rest
      { step with records := s.log.record .debug s!"wrote {path}" :: step.records }

/-- Write the tables of a report into the folder, which is made when it is missing. -/
def publish (r : Report α) (s : TableSink) : SinkStep TableSink :=
  match s.disk.createFolder s.folder with
  | .error fault => ⟨.error (.fileFault fault.message), s, []⟩
  | .ok disk =>
    let step := { s with disk := disk }.write r.tables
    match step.result with
    | .error _ => step
    | .ok _ =>
      let total := r.points.length
      let above := r.selection.selected.length
      let last := s.log.record .info
        s!"{total} points ({above} selected) for {r.tag} written to {s.folder}"
      { step with records := step.records ++ [last] }

end TableSink

end TelescopePointing
