import TelescopePointing.Run.Fitting

namespace TelescopePointing

variable {α : Type} [Scalar α] [NumberText α]

/-- How often deletions met an entry, or the error that ended them, and what is left. -/
structure Deletion where
  result : Except RunError Nat
  disk : Disk
  records : List LogRecord

namespace Deletion

def record (log : LogTarget) (id : Nat) (found : Bool) : LogRecord :=
  if found then log.record .info s!"deleted entry {id}"
  else log.record .warn s!"no entry {id} to delete"

/-- Delete entries from a file, one after the other. -/
def ofFile (log : LogTarget) (path : String) : List Nat → Nat → Disk → Deletion
  | [], removed, d => ⟨.ok removed, d, []⟩
  | id :: rest, removed, d =>
    match ObservationFile.delete d path id with
    | (.error e, left) => ⟨.error ⟨.loading, e⟩, left, []⟩
    | (.ok found, left) =>
      let later := ofFile log path rest (if found then removed + 1 else removed) left
      { later with records := record log id found :: later.records }

end Deletion

/-- Delete entries from the observation file, unless the options are inconsistent. -/
def PointingRun.deleteEntries (run : PointingRun α) (d : Disk) (ids : List Nat) : Deletion :=
  match run.check with
  | .error e => ⟨.error e, d, []⟩
  | .ok _ => Deletion.ofFile run.log run.config.observationPath ids 0 d

end TelescopePointing
