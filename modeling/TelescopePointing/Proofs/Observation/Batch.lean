import TelescopePointing.Observation.Batch
import TelescopePointing.Proofs.Alike

namespace TelescopePointing

variable {α : Type} [Scalar α] [NumberText α]

namespace StoredObservation

theorem decode_eq_ok {o : StoredObservation α} {mount : α × α} {site : Site α} {x : Observation α}
    (h : o.decode mount site = .ok x) : x.site = site := by
  unfold decode at h
  split at h
  · cases h
  · split at h
    · cases h
    · cases h
      rfl

theorem decode_eq_error {o : StoredObservation α} {mount : α × α} {site : Site α}
    {cause : PointingError} (h : o.decode mount site = .error cause) :
    ∃ reason, cause = .sourceUnavailable reason := by
  unfold decode at h
  split at h
  · cases h
    exact ⟨_, rfl⟩
  · split at h
    · cases h
      exact ⟨_, rfl⟩
    · cases h

/-- A measured row decodes, and a row that is not measured is skipped. -/
def Decodes (source : MountSource) (site : Site α) (o : StoredObservation α) : Prop :=
  ∀ mount, o.mount source = some mount → ∃ x, o.decode mount site = .ok x

def usable? (source : MountSource) (site : Site α) (o : StoredObservation α) :
    Option (Observation α) :=
  (o.mount source).bind fun mount => (o.decode mount site).toOption

theorem usable?_site {source : MountSource} {site : Site α} {o : StoredObservation α}
    {x : Observation α} (h : o.usable? source site = some x) : x.site = site := by
  obtain ⟨mount, -, hx⟩ := Option.bind_eq_some_iff.mp h
  cases hdecode : o.decode mount site with
  | error e =>
    rw [hdecode] at hx
    cases hx
  | ok x' =>
    rw [hdecode] at hx
    cases hx
    exact decode_eq_ok hdecode

end StoredObservation

namespace Batch

/-- The outcome of a batch in one pass over its rows. -/
def sweep (b : Batch α) : StoredRows α → Outcome α
  | [] => ⟨.ok [], { b with pending := [] }, []⟩
  | row :: rest =>
    let past := { b with pending := rest, read := b.read + 1 }
    if b.isFull then ⟨.ok [], { b with pending := row :: rest }, []⟩
    else match row with
      | .error e => ⟨.error e, past, []⟩
      | .ok o =>
        match o.mount b.source with
        | none =>
          let later := sweep { past with skipped := b.skipped + 1 } rest
          { later with records := b.skipRecord o :: later.records }
        | some mount =>
          match o.decode mount b.site with
          | .error e => ⟨.error e, past, []⟩
          | .ok x =>
            let later := sweep past rest
            { later with observations := later.observations.map (x :: ·) }

def finish (n : Nat) (step : BatchStep α) : Outcome α :=
  match step.item with
  | none => ⟨.ok [], step.batch, step.records⟩
  | some (.error e) => ⟨.error e, step.batch, step.records⟩
  | some (.ok x) =>
    let later := collect step.batch (steps n step.batch)
    ⟨later.observations.map (x :: ·), later.batch, step.records ++ later.records⟩

theorem collect_steps_succ (c : Batch α) (n : Nat) (b : Batch α) :
    collect c (steps (n + 1) b) = finish n b.next := by
  rw [steps, finish]
  cases hitem : b.next.item with
  | none => simp only [collect, hitem]
  | some item => cases item <;> simp only [collect, hitem]

theorem finish_record (n : Nat) (step : BatchStep α) (r : LogRecord) :
    finish n { step with records := r :: step.records } =
      { finish n step with records := r :: (finish n step).records } := by
  unfold finish
  cases step.item with
  | none => rfl
  | some item => cases item <;> rfl

/-- Every question uses up a row, and so there are enough of them. -/
theorem collect_steps (rows : StoredRows α) (b c : Batch α) (n : Nat) (hpending : b.pending = rows)
    (hn : rows.length < n) : collect c (steps n b) = b.sweep rows := by
  induction rows generalizing b c n with
  | nil =>
    obtain ⟨n, rfl⟩ := Nat.exists_eq_add_one_of_ne_zero (Nat.ne_of_gt hn)
    rw [collect_steps_succ, next, hpending]
    rfl
  | cons row rest ih =>
    obtain ⟨n, rfl⟩ := Nat.exists_eq_add_one_of_ne_zero (Nat.ne_of_gt (Nat.zero_lt_of_lt hn))
    have hrest : rest.length < n := by simpa using hn
    rw [collect_steps_succ, next, hpending]
    simp only [nextOf, sweep]
    by_cases hfull : b.isFull = true
    · rw [if_pos hfull, if_pos hfull]
      rfl
    · rw [if_neg hfull, if_neg hfull]
      cases row with
      | error e => rfl
      | ok o =>
        cases hmount : o.mount b.source with
        | none =>
          simp only [hmount]
          rw [finish_record, ← ih _ c (n + 1) rfl (Nat.lt_succ_of_lt hrest), collect_steps_succ]
          rfl
        | some mount =>
          cases hdecode : o.decode mount b.site with
          | error e =>
            simp only [hmount, hdecode]
            rfl
          | ok x =>
            simp only [hmount, hdecode]
            rw [← ih { b with pending := rest, read := b.read + 1 } _ n rfl hrest]
            rfl

theorem outcome_eq_sweep (b : Batch α) : b.outcome = b.sweep b.pending :=
  collect_steps b.pending b b _ rfl (Nat.lt_succ_self _)

theorem sweep_site {rows : StoredRows α} {b : Batch α} {observations : List (Observation α)}
    (h : (b.sweep rows).observations = .ok observations) : ∀ x ∈ observations, x.site = b.site := by
  induction rows generalizing b observations with
  | nil =>
    cases h
    simp
  | cons row rest ih =>
    simp only [sweep] at h
    split at h
    · cases h
      simp
    · cases row with
      | error e => cases h
      | ok o =>
        dsimp only at h
        split at h
        next => exact ih (b := { b with
          pending := rest, read := b.read + 1, skipped := b.skipped + 1 }) h
        next mount hmount =>
          split at h
          next e he => cases h
          next x hx =>
            dsimp only at h
            cases hlater : (sweep { b with pending := rest, read := b.read + 1 } rest).observations
              with
            | error e =>
              rw [hlater] at h
              cases h
            | ok later =>
              rw [hlater] at h
              cases h
              rintro y (_ | ⟨_, hy⟩)
              · exact StoredObservation.decode_eq_ok hx
              · exact ih hlater y hy

theorem sweep_error {rows : StoredRows α} {b : Batch α} {cause : PointingError}
    (h : (b.sweep rows).observations = .error cause) :
    .error cause ∈ rows ∨ ∃ reason, cause = .sourceUnavailable reason := by
  induction rows generalizing b with
  | nil => cases h
  | cons row rest ih =>
    have hlater : ∀ {c : Batch α}, (c.sweep rest).observations = .error cause →
        .error cause ∈ row :: rest ∨ ∃ reason, cause = .sourceUnavailable reason :=
      fun h => (ih h).imp_left (List.mem_cons_of_mem row)
    simp only [sweep] at h
    split at h
    · cases h
    · cases row with
      | error e =>
        cases h
        exact .inl List.mem_cons_self
      | ok o =>
        dsimp only at h
        split at h
        next => exact hlater h
        next mount hmount =>
          split at h
          next e he =>
            cases h
            exact .inr (StoredObservation.decode_eq_error he)
          next x hx =>
            dsimp only at h
            cases hrest : (sweep { b with pending := rest, read := b.read + 1 } rest).observations
              with
            | error e =>
              rw [hrest] at h
              cases h
              exact hlater hrest
            | ok later =>
              rw [hrest] at h
              cases h

theorem sweep_ofList {limit : Nat} {rows : List (StoredObservation α)} {b : Batch α}
    (hlimit : b.limit = some limit) (hroom : b.read + rows.length ≤ limit)
    (hdecodes : ∀ o ∈ rows, o.Decodes b.source b.site) :
    let outcome := b.sweep (rows.map .ok)
    outcome.observations = .ok (rows.filterMap (·.usable? b.source b.site)) ∧
      outcome.batch.read = b.read + rows.length ∧
      outcome.batch.skipped = b.skipped + rows.countP fun o => (o.mount b.source).isNone := by
  -- Each row moves from those to come to those read, so their sum stays within the limit.
  induction rows generalizing b with
  | nil => exact ⟨rfl, rfl, rfl⟩
  | cons o rest ih =>
    rw [List.length_cons] at hroom
    have hopen : ¬ b.isFull = true := by
      rw [isFull, hlimit]
      simp only [Option.any_some, decide_eq_true_eq]
      omega
    have hrest : ∀ x ∈ rest, x.Decodes b.source b.site :=
      fun x hx => hdecodes x (List.mem_cons_of_mem o hx)
    simp only [List.map_cons, sweep, if_neg hopen, List.length_cons, List.countP_cons]
    cases hmount : o.mount b.source with
    | none =>
      obtain ⟨hobservations, hread, hskipped⟩ :=
        ih (b := { b with pending := rest.map .ok, read := b.read + 1, skipped := b.skipped + 1 })
          hlimit (by simp only; omega) hrest
      have hunusable : o.usable? b.source b.site = none := by
        rw [StoredObservation.usable?, hmount]
        rfl
      refine ⟨?_, hread.trans (Nat.succ_add_eq_add_succ _ _),
        hskipped.trans (Nat.succ_add_eq_add_succ _ _)⟩
      rw [List.filterMap_cons_none hunusable]
      exact hobservations
    | some mount =>
      obtain ⟨x, hx⟩ := hdecodes o List.mem_cons_self mount hmount
      obtain ⟨hobservations, hread, hskipped⟩ :=
        ih (b := { b with pending := rest.map .ok, read := b.read + 1 })
          hlimit (by simp only; omega) hrest
      have husable : o.usable? b.source b.site = some x := by
        rw [StoredObservation.usable?, hmount, Option.bind_some, hx]
        rfl
      simp only [hx]
      refine ⟨?_, hread.trans (Nat.succ_add_eq_add_succ _ _), hskipped⟩
      rw [List.filterMap_cons_some husable, hobservations]
      rfl

theorem load_eq_ok {store : ObservationStore α} {site : Site α} {limit : Option Nat}
    {source : MountSource} {log : LogTarget} {batch : Batch α}
    (h : load store site limit source log = .ok batch) :
    ∃ rows, store.rows = .ok rows ∧ batch.site = site ∧ batch.outcome = batch.sweep rows := by
  unfold load at h
  cases hrows : store.rows with
  | error _ =>
    rw [hrows] at h
    cases h
  | ok rows =>
    rw [hrows] at h
    cases h
    exact ⟨rows, rfl, rfl, outcome_eq_sweep _⟩

theorem load_ofList {limit : Nat} {rows : List (StoredObservation α)} {source : MountSource}
    {site : Site α} (hroom : rows.length ≤ limit) (hdecodes : ∀ o ∈ rows, o.Decodes source site)
    (log : LogTarget) :
    ∃ batch, load (.ofList rows) site (some limit) source log = .ok batch ∧
      batch.outcome.observations = .ok (rows.filterMap (·.usable? source site)) ∧
      batch.outcome.batch.read = rows.length ∧
      batch.outcome.batch.skipped = rows.countP fun o => (o.mount source).isNone := by
  refine ⟨⟨rows.map .ok, site, source, some limit, 0, 0, log.child "loader"⟩, rfl, ?_⟩
  have h := sweep_ofList (b := ⟨rows.map .ok, site, source, some limit, 0, 0, log.child "loader"⟩)
    rfl (by simpa using hroom) hdecodes
  simpa only [outcome_eq_sweep, Nat.zero_add] using h

end Batch

end TelescopePointing
