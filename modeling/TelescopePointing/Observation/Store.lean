import TelescopePointing.Disk
import TelescopePointing.Error
import TelescopePointing.Observation.Row
import TelescopePointing.Table.Reader
import TelescopePointing.Table.Writer
import TelescopePointing.Text.Character

namespace TelescopePointing

variable {α : Type} [NumberText α]

/-- The items of one pass over a store: an observation, or why a row is none. -/
abbrev StoredRows (α : Type) := List (Except PointingError (StoredObservation α))

/-- A source of observations. Its rows are there unless it cannot be opened. -/
structure ObservationStore (α : Type) where
  description : String
  rows : Except PointingError (StoredRows α)

def ObservationStore.ofList (rows : List (StoredObservation α)) : ObservationStore α :=
  ⟨s!"memory ({rows.length} rows)", .ok (rows.map .ok)⟩

namespace ObservationFile

def unavailable (path reason : String) : PointingError :=
  .sourceUnavailable s!"{path}: {reason}"

/-- The observation in a row of a table. Blanks around names and cells do not count. -/
def readRow (path : String) (t : Table) (row : List String) :
    Except PointingError (StoredObservation α) :=
  if t.fits row then
    match StoredObservation.ofRow ((t.header.map Text.trim).zip (row.map Text.trim)) with
    | .ok o => .ok o
    | .error fault => .error (unavailable path fault.message)
  else .error (unavailable path (t.lengthFault row))

def readText (path text : String) : StoredRows α :=
  let t := Table.ofText text
  t.rows.map (readRow path t)

/-- A folder can be opened but holds no rows. -/
def rows (d : Disk) (path : String) : Except PointingError (StoredRows α) :=
  match d.read path with
  | .ok text => .ok (readText path text)
  | .error .isFolder => .ok []
  | .error fault => .error (unavailable path fault.message)

def store (d : Disk) (path : String) : ObservationStore α := ⟨path, rows d path⟩

def create (d : Disk) (path : String) (rows : List (StoredObservation α)) :
    Except PointingError Disk :=
  let text := Table.render
    (Table.withHeader StoredObservation.columns (rows.map StoredObservation.cells))
  match d.write path text with
  | .ok written => .ok written
  | .error fault => .error (.tableFault fault.message)

def idColumn : String := "nml_id"

/-- Whether a row has a number in a column. Only the plain digits of the number count, with blanks
around them. -/
def holds (column id : Nat) (row : List String) : Bool :=
  row[column]?.any fun cell => Text.trim cell == toString id

/-- Copy a table without the rows that have a number in a column, and put the copy in the place of
the table. A row of another length than the header ends the copy and leaves the table alone. -/
def copyWithout (d : Disk) (path : String) (t : Table) (column id : Nat) :
    Except PointingError Bool × Disk :=
  let sound := t.rows.takeWhile t.fits
  let kept := sound.filter fun row => !holds column id row
  let copy := Path.withExtension path "csv.tmp"
  match d.write copy (Table.render (t.header :: kept)) with
  | .error fault => (.error (.tableFault fault.message), d)
  | .ok written =>
    match t.rows.dropWhile t.fits with
    | broken :: _ => (.error (.tableFault (t.lengthFault broken)), written)
    | [] =>
      match written.rename copy path with
      | .ok renamed => (.ok (sound.any (holds column id)), renamed)
      | .error fault => (.error (.fileFault fault.message), written)

/-- Delete the rows of an entry from a file and tell whether there were any. Names of columns are
taken here as they are written. -/
def delete (d : Disk) (path : String) (id : Nat) : Except PointingError Bool × Disk :=
  match d.read path with
  | .error .isFolder => (.error (.tableFault DiskFault.isFolder.message), d)
  | .error fault => (.error (unavailable path fault.message), d)
  | .ok text =>
    let t := Table.ofText text
    match t.header.idxOf? idColumn with
    | none => (.error (unavailable path s!"missing {idColumn} column"), d)
    | some column => copyWithout d path t column id

end ObservationFile

end TelescopePointing
