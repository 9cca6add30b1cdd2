import TelescopePointing.Decimal.Text
import TelescopePointing.Proofs.Observation.Batch
import TelescopePointing.Proofs.Sky.Placement
import TelescopePointing.Scalar.Binary64

namespace TelescopePointing

variable {α : Type}

def MountSource.other : MountSource → MountSource
  | astrometric => centroid
  | centroid => astrometric

namespace StoredObservation

def angles (o : StoredObservation α) : MountSource → Option α × Option α
  | .astrometric => (o.astrometricAscension, o.astrometricDeclination)
  | .centroid => (o.centroidAscension, o.centroidDeclination)

def withAngles (o : StoredObservation α) (source : MountSource) (angles : Option α × Option α) :
    StoredObservation α :=
  match source with
  | .astrometric =>
    { o with astrometricAscension := angles.1, astrometricDeclination := angles.2 }
  | .centroid => { o with centroidAscension := angles.1, centroidDeclination := angles.2 }

section Mount

variable {o : StoredObservation α} {source : MountSource}

theorem mount_eq_none_iff :
    o.mount source = none ↔ (o.angles source).1 = none ∨ (o.angles source).2 = none := by
  have hpair : ∀ a d : Option α, (do return (← a, ← d) : Option (α × α)) = none ↔
      a = none ∨ d = none := by
    intro a d
    cases a <;> cases d <;> simp
  cases source with
  | astrometric => exact hpair _ _
  | centroid => exact hpair _ _

theorem mount_eq_some_iff {mount : α × α} :
    o.mount source = some mount ↔ o.angles source = (some mount.1, some mount.2) := by
  have hpair : ∀ a d : Option α, (do return (← a, ← d) : Option (α × α)) = some mount ↔
      (a, d) = (some mount.1, some mount.2) := by
    intro a d
    cases a <;> cases d <;> simp [Prod.ext_iff]
  cases source with
  | astrometric => exact hpair _ _
  | centroid => exact hpair _ _

theorem id_withAngles (source : MountSource) (angles : Option α × Option α) :
    (o.withAngles source angles).id = o.id := by
  cases source with
  | astrometric => rfl
  | centroid => rfl

theorem mount_withAngles_other (angles : Option α × Option α) :
    (o.withAngles source.other angles).mount source = o.mount source := by
  cases source with
  | astrometric => rfl
  | centroid => rfl

end Mount

variable [Scalar α] [NumberText α]

structure AllFinite (o : StoredObservation α) (mount : α × α) : Prop where
  catalogAscension : Scalar.isFinite o.catalogAscension = true
  catalogDeclination : Scalar.isFinite o.catalogDeclination = true
  mountAscension : Scalar.isFinite mount.1 = true
  mountDeclination : Scalar.isFinite mount.2 = true
  temperature : Scalar.isFinite o.temperature = true
  pressure : Scalar.isFinite o.pressure = true
  humidity : Scalar.isFinite o.humidity = true

def readDate (o : StoredObservation α) : Except DateText.Fault Instant :=
  DateText.read (Text.trimChars o.date.toList)

def dateFault (o : StoredObservation α) (fault : DateText.Fault) : PointingError :=
  .invalidTime s!"{o.date}: {fault.message}"

structure Decoded (o : StoredObservation α) (mount : α × α) (site : Site α)
    (answer : Except PointingError (Observation α)) : Prop where
  ok_iff : (∃ x, answer = .ok x) ↔ o.AllFinite mount ∧ ∃ t, o.readDate = .ok t
  /-- The first number that is not finite is named, whatever the date is. -/
  undefined : ∀ before column value after,
    o.measurements mount = before ++ (column, value) :: after →
    (∀ m ∈ before, Scalar.isFinite m.2 = true) → Scalar.isFinite value = false →
    answer = .error (.sourceUnavailable
      s!"entry {o.id}: {column} is not a finite number ({NumberText.plain value})")
  undated : o.AllFinite mount → ∀ fault, o.readDate = .error fault →
    answer = .error (.sourceUnavailable
      s!"entry {o.id}: {(o.dateFault fault).message}")
  record : ∀ x, answer = .ok x → ∃ t, o.readDate = .ok t ∧
    x = { id := o.id
          catalog :=
            ⟨Angle.positive o.catalogAscension, Angle.latitude o.catalogDeclination, .catalog, t⟩
          mount := ⟨Angle.positive mount.1, Angle.latitude mount.2, .catalog, t⟩
          air := ⟨o.temperature, o.pressure, o.humidity⟩
          site := site
          instant := t
          image := o.image }

variable {o : StoredObservation α} {mount : α × α} {site : Site α}

omit [NumberText α] in
theorem allFinite_iff : o.AllFinite mount ↔
    ((o.measurements mount).find? fun m => !Scalar.isFinite m.2) = none := by
  simp only [measurements, List.find?_eq_none, List.forall_mem_cons, Bool.not_eq_true',
    Bool.not_eq_false]
  constructor
  · rintro ⟨h1, h2, h3, h4, h5, h6, h7⟩
    exact ⟨h1, h2, h3, h4, h5, h6, h7, nofun⟩
  · rintro ⟨h1, h2, h3, h4, h5, h6, h7, -⟩
    exact ⟨h1, h2, h3, h4, h5, h6, h7⟩

theorem decode_of_undefined {before after : List (String × α)} {column : String} {value : α}
    (hsplit : o.measurements mount = before ++ (column, value) :: after)
    (hbefore : ∀ m ∈ before, Scalar.isFinite m.2 = true) (hvalue : Scalar.isFinite value = false) :
    o.decode mount site = .error (.sourceUnavailable
      s!"entry {o.id}: {column} is not a finite number ({NumberText.plain value})") := by
  have hfound : ((o.measurements mount).find? fun m => !Scalar.isFinite m.2) =
      some (column, value) := by
    rw [List.find?_eq_some_iff_append]
    refine ⟨by simp [hvalue], before, after, hsplit, fun m hm => ?_⟩
    simp [hbefore m hm]
  rw [decode, hfound]

omit [Scalar α] [NumberText α] in
theorem parse_of_dated {t : Instant} (h : o.readDate = .ok t) : Instant.parse o.date = .ok t := by
  rw [readDate] at h
  rw [Instant.parse, h]

omit [Scalar α] [NumberText α] in
theorem parse_of_undated {fault : DateText.Fault} (h : o.readDate = .error fault) :
    Instant.parse o.date = .error (o.dateFault fault) := by
  rw [readDate] at h
  rw [Instant.parse, h, dateFault]

theorem decode_decoded (o : StoredObservation α) (mount : α × α) (site : Site α) :
    o.Decoded mount site (o.decode mount site) := by
  have hundefined : ¬ o.AllFinite mount → ∃ e, o.decode mount site = .error e := by
    intro h
    obtain ⟨m, hm⟩ := Option.ne_none_iff_exists'.mp (mt allFinite_iff.mpr h)
    rw [decode, hm]
    exact ⟨_, rfl⟩
  have hundated : o.AllFinite mount → ∀ fault, o.readDate = .error fault →
      o.decode mount site = .error (.sourceUnavailable
        s!"entry {o.id}: {(o.dateFault fault).message}") := by
    intro h fault hfault
    rw [decode, allFinite_iff.mp h, parse_of_undated hfault]
  have hdated : o.AllFinite mount → ∀ t, o.readDate = .ok t → ∃ x, o.decode mount site = .ok x := by
    intro h t ht
    rw [decode, allFinite_iff.mp h, parse_of_dated ht]
    exact ⟨_, rfl⟩
  have hok : ∀ x, o.decode mount site = .ok x → o.AllFinite mount ∧ ∃ t, o.readDate = .ok t := by
    intro x hx
    by_cases h : o.AllFinite mount
    · cases hdate : o.readDate with
      | ok t => exact ⟨h, t, rfl⟩
      | error fault => cases hx.symm.trans (hundated h fault hdate)
    · obtain ⟨e, he⟩ := hundefined h
      cases hx.symm.trans he
  refine ⟨⟨fun ⟨x, hx⟩ => hok x hx, fun ⟨h, t, ht⟩ => hdated h t ht⟩,
    fun _ _ _ _ => decode_of_undefined, hundated, fun x hx => ?_⟩
  obtain ⟨h, t, ht⟩ := hok x hx
  rw [decode, allFinite_iff.mp h, parse_of_dated ht] at hx
  exact ⟨t, ht, (Except.ok.inj hx).symm⟩

theorem decode_withAngles (source : MountSource) (angles : Option α × Option α) :
    (o.withAngles source angles).decode mount site = o.decode mount site := by
  cases source with
  | astrometric => simp only [withAngles, decode, measurements]
  | centroid => simp only [withAngles, decode, measurements]

end StoredObservation

namespace Batch

variable [Scalar α] [NumberText α] {b b' : Batch α}

/-- Two rows that differ in the angles of the other source only. -/
abbrev SameRow (source : MountSource) (row row' : Except PointingError (StoredObservation α)) :
    Prop :=
  Alike (fun o o' => ∃ angles, o' = o.withAngles source.other angles) row row'

structure Twin (b b' : Batch α) : Prop where
  rows : List.Forall₂ (SameRow b.source) b.pending b'.pending
  rest : b' = { b with pending := b'.pending }

structure SameStep (step step' : BatchStep α) : Prop where
  item : step'.item = step.item
  records : step'.records = step.records
  batch : step.batch.Twin step'.batch

theorem nextOf_twin {rows rows' : StoredRows α} (b : Batch α) (pending : StoredRows α)
    (h : List.Forall₂ (SameRow b.source) rows rows') :
    SameStep (b.nextOf rows) ({ b with pending := pending }.nextOf rows') := by
  -- A skipped row is followed by a search among the others, in a batch that has counted it.
  induction rows generalizing b rows' pending with
  | nil =>
    cases h
    exact ⟨rfl, rfl, .nil, rfl⟩
  | cons row rest ih =>
    cases h with
    | @cons _ row' _ rest' hrow hrest =>
    have hfull : ({ b with pending := pending } : Batch α).isFull = b.isFull := rfl
    simp only [nextOf, hfull]
    split
    · exact ⟨rfl, rfl, .cons hrow hrest, rfl⟩
    · cases hrow with
      | error e => exact ⟨rfl, rfl, hrest, rfl⟩
      | @ok o o' hother =>
        obtain ⟨angles, rfl⟩ := hother
        simp only [StoredObservation.mount_withAngles_other, StoredObservation.decode_withAngles]
        cases hmount : o.mount b.source with
        | some mount => exact ⟨rfl, rfl, hrest, rfl⟩
        | none =>
          have hlater := ih { b with pending := rest, read := b.read + 1, skipped := b.skipped + 1 }
            rest' hrest
          have hrecord : ({ b with pending := pending } : Batch α).skipRecord
              (o.withAngles b.source.other angles) = b.skipRecord o := by
            rw [skipRecord, skipRecord, StoredObservation.id_withAngles]
          dsimp only
          refine ⟨hlater.item, ?_, hlater.batch⟩
          rw [hrecord]
          exact congrArg (b.skipRecord o :: ·) hlater.records

theorem Twin.next (h : b.Twin b') : SameStep b.next b'.next := by
  rw [h.rest]
  exact nextOf_twin b b'.pending h.rows

theorem Twin.steps (h : b.Twin b') (n : Nat) :
    List.Forall₂ SameStep (b.steps n) (b'.steps n) := by
  induction n generalizing b b' with
  | zero => exact .nil
  | succ n ih =>
    have hnext := h.next
    rw [Batch.steps, Batch.steps, hnext.item]
    cases b.next.item with
    | none => exact .cons hnext .nil
    | some item => exact .cons hnext (ih hnext.batch)

omit [Scalar α] [NumberText α] in
theorem Twin.collect {answers answers' : List (BatchStep α)} (h : b.Twin b')
    (hanswers : List.Forall₂ SameStep answers answers') :
    (b'.collect answers').observations = (b.collect answers).observations ∧
      (b'.collect answers').records = (b.collect answers).records ∧
      (b.collect answers).batch.Twin (b'.collect answers').batch := by
  induction hanswers generalizing b b' with
  | nil => exact ⟨rfl, rfl, h⟩
  | @cons step step' rest rest' hstep _ ih =>
    obtain ⟨hobservations, hrecords, hbatch⟩ := ih hstep.batch
    simp only [Batch.collect, hstep.item]
    cases step.item with
    | none => exact ⟨rfl, hstep.records, hstep.batch⟩
    | some item =>
      cases item with
      | error e => exact ⟨rfl, hstep.records, hstep.batch⟩
      | ok x => exact ⟨by simp only [hobservations], by simp only [hstep.records, hrecords], hbatch⟩

theorem Twin.outcome (h : b.Twin b') :
    b'.outcome.observations = b.outcome.observations ∧ b'.outcome.records = b.outcome.records ∧
      b.outcome.batch.Twin b'.outcome.batch := by
  have hdrain := h.steps (b.pending.length + 1)
  rw [Batch.outcome, Batch.outcome, drain, drain, ← h.rows.length_eq]
  exact h.collect hdrain

section Row

variable {o : StoredObservation α} {rest : StoredRows α}

theorem next_of_missing (hopen : b.isFull = false) (hpending : b.pending = .ok o :: rest)
    (h : o.mount b.source = none) :
    let later :=
      Batch.next { b with pending := rest, read := b.read + 1, skipped := b.skipped + 1 }
    b.next = { later with records := b.skipRecord o :: later.records } := by
  have hnext : b.next = b.nextOf (.ok o :: rest) := by rw [next, hpending]
  rw [hnext, nextOf, hopen, if_neg Bool.false_ne_true]
  simp only [h, next]

theorem next_of_measured {mount : α × α} (hopen : b.isFull = false)
    (hpending : b.pending = .ok o :: rest) (h : o.mount b.source = some mount) :
    b.next =
      ⟨some (o.decode mount b.site), { b with pending := rest, read := b.read + 1 }, []⟩ := by
  rw [next, hpending, nextOf, hopen, if_neg Bool.false_ne_true]
  simp only [h]

end Row

end Batch

theorem StoredObservation.represents_of_decode [NumberText ℝ] {o : StoredObservation ℝ}
    {mount : ℝ × ℝ} {site : Site ℝ} {x : Observation ℝ} (h : o.decode mount site = .ok x) :
    x.catalog.Represents o.catalogAscension o.catalogDeclination .catalog x.instant ∧
      x.mount.Represents mount.1 mount.2 .catalog x.instant := by
  obtain ⟨t, -, rfl⟩ := (o.decode_decoded mount site).record x h
  exact ⟨SkyPosition.make_represents o.catalogAscension o.catalogDeclination .catalog t,
    SkyPosition.make_represents mount.1 mount.2 .catalog t⟩

/-- A row is skipped unless both angles of the chosen source are there. Otherwise the answer is an
error about its first number that is not finite, else one about its date, else a record. The angles
of the other source make no difference. -/
theorem rows_decode [Scalar α] [NumberText α] [NumberText ℝ] (b : Batch α) :
    (b.isFull = false → ∀ (o : StoredObservation α) (rest : StoredRows α),
      b.pending = .ok o :: rest →
      ((o.angles b.source).1 = none ∨ (o.angles b.source).2 = none →
        let later :=
          Batch.next { b with pending := rest, read := b.read + 1, skipped := b.skipped + 1 }
        b.next = { later with records := b.skipRecord o :: later.records }) ∧
      ∀ mount : α × α, o.angles b.source = (some mount.1, some mount.2) → ∃ answer,
        b.next = ⟨some answer, { b with pending := rest, read := b.read + 1 }, []⟩ ∧
          o.Decoded mount b.site answer) ∧
    (∀ (o : StoredObservation ℝ) (mount : ℝ × ℝ) (site : Site ℝ) (x : Observation ℝ),
      o.decode mount site = .ok x →
      x.catalog.Represents o.catalogAscension o.catalogDeclination .catalog x.instant ∧
        x.mount.Represents mount.1 mount.2 .catalog x.instant) ∧
    ∀ b' : Batch α, b.Twin b' →
      (∀ n, List.Forall₂ Batch.SameStep (b.steps n) (b'.steps n)) ∧
        b'.outcome.observations = b.outcome.observations ∧
        b'.outcome.records = b.outcome.records ∧ b.outcome.batch.Twin b'.outcome.batch := by
  refine ⟨fun hopen o rest hpending => ⟨fun hmissing => ?_, fun mount hangles => ?_⟩,
    fun _ _ _ _ => StoredObservation.represents_of_decode, fun b' h => ⟨h.steps, h.outcome⟩⟩
  · exact Batch.next_of_missing hopen hpending
      (StoredObservation.mount_eq_none_iff.mpr hmissing)
  · have hmount := StoredObservation.mount_eq_some_iff.mpr hangles
    exact ⟨_, Batch.next_of_measured hopen hpending hmount, o.decode_decoded mount b.site⟩

def blurredStar : StoredObservation Float where
  id := 8
  catalogAscension := 1.0
  catalogDeclination := 0.0 / 0.0
  astrometricAscension := none
  astrometricDeclination := none
  centroidAscension := some 1.0
  centroidDeclination := some (-1.0)
  date := "yesterday"
  temperature := 0.0
  pressure := 700.0
  humidity := 0.5
  image := none

def sharpStar : StoredObservation Float :=
  { blurredStar with
    id := 9
    catalogDeclination := -1.0
    date := "2021-01-01T03:00:00" }

def blurred : Batch Float where
  pending := [.ok blurredStar, .ok sharpStar]
  site := ⟨0.0, 0.0, 0.0⟩
  source := .centroid
  limit := none
  read := 1
  skipped := 1
  log := .standard

def blurredBefore : Batch Float :=
  { blurred with
    pending := .ok { blurredStar with id := 7, centroidDeclination := none } :: blurred.pending
    read := 0
    skipped := 0 }

def blurredAfter : Batch Float := { blurred with pending := [.ok sharpStar], read := 2 }

theorem rows_decode_blurred : letI := roundedText
    blurredBefore.isFull = false ∧ blurred.isFull = false ∧ blurredAfter.isFull = false ∧
    blurredBefore.next.batch = blurredAfter ∧
    blurredBefore.next.item = some (.error (.sourceUnavailable
      "entry 8: cat_dc is not a finite number (NaN)")) ∧
    blurredAfter.next.batch = { blurred with pending := [], read := 3 } ∧
    ∃ x, blurredAfter.next.item = some (.ok x) ∧ x.id = 9 := by
  let := roundedText
  have hbefore : blurredBefore.isFull = false := rfl
  have hopen : blurred.isFull = false := rfl
  have hafter : blurredAfter.isFull = false := rfl
  obtain ⟨hskips, -⟩ := (rows_decode blurredBefore).1 hbefore _ _ rfl
  obtain ⟨-, hanswers⟩ := (rows_decode blurred).1 hopen blurredStar _ rfl
  obtain ⟨answer, hanswer, hdecoded⟩ := hanswers (1.0, -1.0) rfl
  obtain ⟨-, hrecords⟩ := (rows_decode blurredAfter).1 hafter sharpStar [] rfl
  obtain ⟨last, hlast, hrecord⟩ := hrecords (1.0, -1.0) rfl
  have hundefined : answer = .error (.sourceUnavailable
      "entry 8: cat_dc is not a finite number (NaN)") :=
    hdecoded.undefined [("cat_ra", 1.0)] "cat_dc" (0.0 / 0.0) _ rfl
      (List.forall_mem_singleton.mpr (by decide)) (by decide)
  have hfinite : sharpStar.AllFinite (1.0, -1.0) := by constructor <;> decide
  obtain ⟨x, rfl⟩ := hrecord.ok_iff.mpr ⟨hfinite, ⟨3818458800000000000, .utc⟩, rfl⟩
  obtain ⟨t, -, hx⟩ := hrecord.record x rfl
  have hskipped := hskips (.inr rfl)
  refine ⟨hbefore, hopen, hafter, ?_, ?_, congrArg BatchStep.batch hlast, x,
    congrArg BatchStep.item hlast, congrArg Observation.id hx⟩
  · exact (congrArg BatchStep.batch hskipped).trans (congrArg BatchStep.batch hanswer)
  · rw [← hundefined]
    exact (congrArg BatchStep.item hskipped).trans (congrArg BatchStep.item hanswer)

end TelescopePointing
