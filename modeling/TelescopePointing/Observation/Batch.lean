import TelescopePointing.Log
import TelescopePointing.Observation.Store
import TelescopePointing.Refraction
import TelescopePointing.Site
import TelescopePointing.Sky.Position
import TelescopePointing.Time.Resolved

namespace TelescopePointing

variable {α : Type} [Scalar α] [NumberText α]

/-- A star with the place where the mount saw it, and what the transforms need to know. -/
structure Observation (α : Type) where
  id : Nat
  catalog : SkyPosition α
  mount : SkyPosition α
  air : Atmosphere α
  site : Site α
  instant : Instant
  image : Option String

namespace StoredObservation

/-- The numbers that have to be finite, in the order in which they are looked at. -/
def measurements (o : StoredObservation α) (mount : α × α) : List (String × α) :=
  [("cat_ra", o.catalogAscension), ("cat_dc", o.catalogDeclination), ("mount ra", mount.1),
    ("mount dec", mount.2), ("temperature", o.temperature), ("pressure", o.pressure),
    ("humidity", o.humidity)]

/-- The observation in a stored one whose mount position is known. Its numbers are looked at before
its date. -/
def decode (o : StoredObservation α) (mount : α × α) (site : Site α) :
    Except PointingError (Observation α) :=
  match (o.measurements mount).find? fun m => !Scalar.isFinite m.2 with
  | some (column, value) =>
    .error (.sourceUnavailable
      s!"entry {o.id}: {column} is not a finite number ({NumberText.plain value})")
  | none =>
    match Instant.parse o.date with
    | .error e => .error (.sourceUnavailable s!"entry {o.id}: {e.message}")
    | .ok instant =>
      .ok
        { id := o.id
          catalog := .catalog o.catalogAscension o.catalogDeclination instant
          mount := .catalog mount.1 mount.2 instant
          air := ⟨o.temperature, o.pressure, o.humidity⟩
          site := site
          instant := instant
          image := o.image }

end StoredObservation

/-- A pass over stored rows. At most `limit` of them are read; those without a position of the
chosen source are skipped. -/
structure Batch (α : Type) where
  pending : StoredRows α
  site : Site α
  source : MountSource
  limit : Option Nat
  read : Nat
  skipped : Nat
  log : LogTarget

/-- What a batch answers when it is asked for its next item. -/
structure BatchStep (α : Type) where
  item : Option (Except PointingError (Observation α))
  batch : Batch α
  records : List LogRecord

namespace Batch

def isFull (b : Batch α) : Bool := b.limit.any (· ≤ b.read)

def skipRecord (b : Batch α) (o : StoredObservation α) : LogRecord :=
  b.log.record .debug s!"skipping entry {o.id}: no {b.source.label} mount position"

/-- The next item when these rows are pending. -/
def nextOf (b : Batch α) : StoredRows α → BatchStep α
  | [] => ⟨none, { b with pending := [] }, []⟩
  | row :: rest =>
    let past := { b with pending := rest, read := b.read + 1 }
    if b.isFull then ⟨none, { b with pending := row :: rest }, []⟩
    else match row with
      | .error e => ⟨some (.error e), past, []⟩
      | .ok o =>
        match o.mount b.source with
        | some mount => ⟨some (o.decode mount b.site), past, []⟩
        | none =>
          let step := nextOf { past with skipped := b.skipped + 1 } rest
          { step with records := b.skipRecord o :: step.records }

def next (b : Batch α) : BatchStep α := b.nextOf b.pending

/-- The answers to at most `n` questions, the last of which finds the end. -/
def steps : Nat → Batch α → List (BatchStep α)
  | 0, _ => []
  | n + 1, b =>
    let step := b.next
    match step.item with
    | none => [step]
    | some _ => step :: steps n step.batch

/-- All answers. Each but the last uses up a row. -/
def drain (b : Batch α) : List (BatchStep α) := steps (b.pending.length + 1) b

/-- The observations of a batch, or the first error that it met, and the batch after that. -/
structure Outcome (α : Type) where
  observations : Except PointingError (List (Observation α))
  batch : Batch α
  records : List LogRecord

def collect (b : Batch α) : List (BatchStep α) → Outcome α
  | [] => ⟨.ok [], b, []⟩
  | step :: rest =>
    match step.item with
    | none => ⟨.ok [], step.batch, step.records⟩
    | some (.error e) => ⟨.error e, step.batch, step.records⟩
    | some (.ok o) =>
      let later := collect step.batch rest
      ⟨later.observations.map (o :: ·), later.batch, step.records ++ later.records⟩

def outcome (b : Batch α) : Outcome α := collect b b.drain

def load (store : ObservationStore α) (site : Site α) (limit : Option Nat) (source : MountSource)
    (log : LogTarget) : Except PointingError (Batch α) :=
  store.rows.map fun rows => ⟨rows, site, source, limit, 0, 0, log.child "loader"⟩

def openRecord (store : ObservationStore α) (source : MountSource) (log : LogTarget) : LogRecord :=
  (log.child "loader").record .info
    s!"reading observations from {store.description} (mount source: {source.label})"

end Batch

end TelescopePointing
