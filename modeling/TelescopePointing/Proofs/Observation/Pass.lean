import Mathlib.Data.List.Basic
import TelescopePointing.Proofs.Observation.Batch

namespace TelescopePointing

variable {α : Type} [Scalar α] [NumberText α]

def StoredObservation.label (o : StoredObservation α) : Nat × Option String := (o.id, o.image)

def Observation.label (x : Observation α) : Nat × Option String := (x.id, x.image)

theorem StoredObservation.label_of_decode {o : StoredObservation α} {mount : α × α} {site : Site α}
    {x : Observation α} (h : o.decode mount site = .ok x) : x.label = o.label := by
  unfold decode at h
  split at h
  · cases h
  · split at h
    · cases h
    · cases h
      rfl

namespace Batch

/-- What a pass answers for a stored item: its error, or its observation if it has a position of the
chosen source. Other items are skipped. -/
def answer? (source : MountSource) (site : Site α) :
    Except PointingError (StoredObservation α) → Option (Except PointingError (Observation α))
  | .error e => some (.error e)
  | .ok o => (o.mount source).map fun mount => o.decode mount site

section Answer

variable {source : MountSource} (site : Site α) {o : StoredObservation α}

theorem answer?_error (source : MountSource) (e : PointingError) :
    answer? source site (.error e) = some (.error e) := rfl

theorem answer?_skipped (h : o.mount source = none) : answer? source site (.ok o) = none := by
  simp only [answer?, h, Option.map_none]

theorem answer?_measured {mount : α × α} (h : o.mount source = some mount) :
    answer? source site (.ok o) = some (o.decode mount site) := by
  simp only [answer?, h, Option.map_some]

end Answer

/-- Rows that are answered with nothing but observations are rows without a fault, and the
observations are those of the measured ones. -/
theorem labels_of_answers {source : MountSource} {site : Site α} {taken : StoredRows α}
    {observations : List (Observation α)}
    (h : observations.map .ok = taken.filterMap (answer? source site)) :
    ∃ entries : List (StoredObservation α), taken = entries.map .ok ∧ observations.map (·.label) =
      (entries.filter fun o => (o.mount source).isSome).map (·.label) := by
  induction taken generalizing observations with
  | nil =>
    obtain rfl : observations = [] := by simpa using h
    exact ⟨[], rfl, rfl⟩
  | cons row rest ih =>
    cases row with
    | error e =>
      rw [List.filterMap_cons_some (answer?_error site source e)] at h
      obtain ⟨x, observations, -, hx, -⟩ := List.map_eq_cons_iff.mp h
      cases hx
    | ok o =>
      cases hmount : o.mount source with
      | none =>
        rw [List.filterMap_cons_none (answer?_skipped site hmount)] at h
        obtain ⟨entries, rfl, hlabels⟩ := ih h
        exact ⟨o :: entries, rfl, by simpa [hmount] using hlabels⟩
      | some mount =>
        rw [List.filterMap_cons_some (answer?_measured site hmount)] at h
        obtain ⟨x, observations, rfl, hx, hrest⟩ := List.map_eq_cons_iff.mp h
        obtain ⟨entries, rfl, hlabels⟩ := ih hrest
        have hlabel := StoredObservation.label_of_decode hx.symm
        exact ⟨o :: entries, rfl, by simp [hmount, hlabel, hlabels]⟩

def WithinLimit (b : Batch α) : Prop := ∀ limit ∈ b.limit, b.read ≤ limit

omit [Scalar α] [NumberText α] in
theorem isFull_iff (b : Batch α) : b.isFull = true ↔ ∃ limit ∈ b.limit, limit ≤ b.read := by
  cases h : b.limit <;> simp [isFull, h]

def Exhausted (b : Batch α) : Prop := b.pending = [] ∨ b.isFull = true

/-- One batch becomes another by taking rows from the store and answering with items. -/
structure Passes (b : Batch α) (taken : StoredRows α)
    (items : List (Except PointingError (Observation α))) (c : Batch α) : Prop where
  pending : b.pending = taken ++ c.pending
  answers : items = taken.filterMap (answer? b.source b.site)
  read : c.read = b.read + taken.length
  skipped : c.skipped + items.length = b.skipped + taken.length
  source : c.source = b.source
  site : c.site = b.site
  limit : c.limit = b.limit
  within : b.WithinLimit → c.WithinLimit

namespace Passes

variable {b c d : Batch α} {taken more : StoredRows α}
  {items others : List (Except PointingError (Observation α))}

theorem refl (b : Batch α) : b.Passes [] [] b :=
  ⟨rfl, rfl, rfl, rfl, rfl, rfl, rfl, id⟩

theorem trans (h : b.Passes taken items c) (h' : c.Passes more others d) :
    b.Passes (taken ++ more) (items ++ others) d where
  pending := by rw [h.pending, h'.pending, List.append_assoc]
  answers := by rw [h.answers, h'.answers, h.source, h.site, List.filterMap_append]
  read := by rw [h'.read, h.read, List.length_append, Nat.add_assoc]
  skipped := by
    have hfirst := h.skipped
    have hsecond := h'.skipped
    simp only [List.length_append]
    omega
  source := h'.source.trans h.source
  site := h'.site.trans h.site
  limit := h'.limit.trans h.limit
  within hb := h'.within (h.within hb)

theorem row {row : Except PointingError (StoredObservation α)} {rest : StoredRows α}
    (hpending : b.pending = row :: rest) (hopen : ¬ b.isFull = true) (skipped : Nat)
    (hskipped : skipped + (answer? b.source b.site row).toList.length = b.skipped + 1) :
    b.Passes [row] (answer? b.source b.site row).toList
      { b with pending := rest, read := b.read + 1, skipped := skipped } where
  pending := hpending
  answers := by cases h : answer? b.source b.site row <;> simp [h]
  read := rfl
  skipped := hskipped
  source := rfl
  site := rfl
  limit := rfl
  within _ limit hlimit := by
    rw [isFull_iff] at hopen
    exact Nat.lt_of_not_le fun hfull => hopen ⟨limit, hlimit, hfull⟩

theorem exhausted (h : b.Passes taken items c) (hb : b.Exhausted) : c.Exhausted := by
  rcases hb with hb | hb
  · have hnone : taken ++ c.pending = [] := h.pending.symm.trans hb
    exact .inl (List.append_eq_nil_iff.mp hnone).2
  · obtain ⟨limit, hlimit, hfull⟩ := b.isFull_iff.mp hb
    have hread : b.read ≤ c.read := h.read ▸ Nat.le_add_right _ _
    exact .inr (c.isFull_iff.mpr ⟨limit, h.limit ▸ hlimit, Nat.le_trans hfull hread⟩)

end Passes

/-- The next answer comes with the rows that are read for it, and there is none only at the end. -/
theorem nextOf_passes (rows : StoredRows α) (b : Batch α) (hpending : b.pending = rows) :
    ∃ taken, b.Passes taken (b.nextOf rows).item.toList (b.nextOf rows).batch ∧
      ((b.nextOf rows).item = none → (b.nextOf rows).batch.Exhausted) := by
  -- A skipped row is followed by a search among the others.
  induction rows generalizing b with
  | nil =>
    have hself : { b with pending := [] } = b := by rw [← hpending]
    rw [nextOf, hself]
    exact ⟨[], .refl b, fun _ => .inl hpending⟩
  | cons row rest ih =>
    have hself : { b with pending := row :: rest } = b := by rw [← hpending]
    simp only [nextOf, hself]
    by_cases hfull : b.isFull = true
    · rw [if_pos hfull]
      exact ⟨[], .refl b, fun _ => .inr hfull⟩
    · rw [if_neg hfull]
      cases row with
      | error e =>
        exact ⟨_, .row hpending hfull _ rfl, fun hnone => absurd hnone (Option.some_ne_none _)⟩
      | ok o =>
        cases hmount : o.mount b.source with
        | some mount =>
          have hanswer := answer?_measured b.site hmount
          have hrow := Passes.row hpending hfull b.skipped (by rw [hanswer]; rfl)
          rw [hanswer] at hrow
          simp only [hmount]
          exact ⟨_, hrow, fun hnone => absurd hnone (Option.some_ne_none _)⟩
        | none =>
          have hanswer := answer?_skipped b.site hmount
          have hrow := Passes.row hpending hfull (b.skipped + 1) (by rw [hanswer]; rfl)
          rw [hanswer] at hrow
          obtain ⟨taken, htaken, hend⟩ :=
            ih { b with pending := rest, read := b.read + 1, skipped := b.skipped + 1 } rfl
          simp only [hmount]
          exact ⟨_, hrow.trans htaken, hend⟩

theorem next_passes (b : Batch α) : ∃ taken, b.Passes taken b.next.item.toList b.next.batch ∧
    (b.next.item = none → b.next.batch.Exhausted) :=
  nextOf_passes b.pending b rfl

def ask : Nat → Batch α → List (Except PointingError (Observation α)) × Batch α
  | 0, b => ([], b)
  | n + 1, b =>
    let later := ask n b.next.batch
    (b.next.item.toList ++ later.1, later.2)

theorem ask_passes (n : Nat) (b : Batch α) :
    (ask n b).1.length ≤ n ∧ ((ask n b).1.length < n → (ask n b).2.Exhausted) ∧
      ∃ taken, b.Passes taken (ask n b).1 (ask n b).2 := by
  induction n generalizing b with
  | zero => exact ⟨Nat.le_refl 0, nofun, [], .refl b⟩
  | succ n ih =>
    obtain ⟨taken, htaken, hend⟩ := b.next_passes
    obtain ⟨hlength, hlater, more, hmore⟩ := ih b.next.batch
    have hcount : (ask (n + 1) b).1.length = b.next.item.toList.length +
        (ask n b.next.batch).1.length := List.length_append
    refine ⟨?_, ?_, _, htaken.trans hmore⟩
    · have hone : b.next.item.toList.length ≤ 1 := by cases b.next.item <;> simp
      omega
    · intro hfew
      cases hitem : b.next.item with
      | none => exact hmore.exhausted (hend hitem)
      | some item =>
        rw [hitem] at hcount
        simp only [Option.toList_some, List.length_singleton] at hcount
        exact hlater (by omega)

/-- Observations that are all sound are what a batch answers with until it comes to its end. -/
theorem collect_passes (n : Nat) (b c : Batch α) (hn : b.pending.length < n)
    {observations : List (Observation α)}
    (h : (collect c (steps n b)).observations = .ok observations) :
    (collect c (steps n b)).batch.Exhausted ∧
      ∃ taken, b.Passes taken (observations.map .ok) (collect c (steps n b)).batch := by
  induction n generalizing b c observations with
  | zero => exact absurd hn (Nat.not_lt_zero _)
  | succ n ih =>
    obtain ⟨taken, htaken, hend⟩ := b.next_passes
    rw [collect_steps_succ] at h ⊢
    cases hitem : b.next.item with
    | none =>
      simp only [finish, hitem, Except.ok.injEq] at h ⊢
      rw [← h]
      rw [hitem] at htaken
      exact ⟨hend hitem, taken, htaken⟩
    | some item =>
      rw [hitem] at htaken
      cases item with
      | error e => simp [finish, hitem] at h
      | ok x =>
        -- The answer has used up a row, and so the other questions suffice for the rest.
        have hused : taken ≠ [] := by
          rintro rfl
          cases htaken.answers
        have hrest : b.next.batch.pending.length < n := by
          have hlength := congrArg List.length htaken.pending
          have hpos := List.length_pos_iff.mpr hused
          rw [List.length_append] at hlength
          omega
        simp only [finish, hitem] at h ⊢
        cases hlater : (collect b.next.batch (steps n b.next.batch)).observations with
        | error e =>
          rw [hlater] at h
          cases h
        | ok later =>
          rw [hlater] at h
          cases h
          obtain ⟨hexhausted, more, hmore⟩ := ih b.next.batch b.next.batch hrest hlater
          exact ⟨hexhausted, _, htaken.trans hmore⟩

theorem outcome_passes {b : Batch α} {observations : List (Observation α)}
    (h : b.outcome.observations = .ok observations) :
    b.outcome.batch.Exhausted ∧
      ∃ taken, b.Passes taken (observations.map .ok) b.outcome.batch :=
  collect_passes _ b b (Nat.lt_succ_self _) h

def allowed (limit : Option Nat) (count : Nat) : Nat := limit.elim count (min · count)

theorem le_allowed {limit : Option Nat} {count n : Nat} (hcount : n ≤ count)
    (hlimit : ∀ m ∈ limit, n ≤ m) : n ≤ allowed limit count := by
  cases limit with
  | none => exact hcount
  | some m => exact Nat.le_min.mpr ⟨hlimit m rfl, hcount⟩

theorem allowed_le {limit : Option Nat} {m : Nat} (hm : m ∈ limit) (count : Nat) :
    allowed limit count ≤ m := by
  rw [Option.mem_def.mp hm]
  exact Nat.min_le_left m count

theorem allowed_le_count (limit : Option Nat) (count : Nat) : allowed limit count ≤ count := by
  cases limit with
  | none => exact Nat.le_refl count
  | some m => exact Nat.min_le_right m count

section Opened

variable {b c : Batch α} {taken : StoredRows α}
  {items : List (Except PointingError (Observation α))}

structure Fresh (b : Batch α) : Prop where
  read : b.read = 0
  skipped : b.skipped = 0

namespace Fresh

variable (hb : b.Fresh) (h : b.Passes taken items c)
include hb h

theorem read_eq : c.read = taken.length := by rw [h.read, hb.read, Nat.zero_add]

theorem take_read : b.pending.take c.read = taken := by
  rw [hb.read_eq h, h.pending, List.take_left]

theorem drop_read : b.pending.drop c.read = c.pending := by
  rw [hb.read_eq h, h.pending, List.drop_left]

theorem length_add_skipped : items.length + c.skipped = c.read := by
  have hskipped := h.skipped
  rw [hb.read_eq h, ← Nat.zero_add taken.length, ← hb.skipped, ← hskipped, Nat.add_comm]

theorem read_le : c.read ≤ allowed b.limit b.pending.length := by
  have hwithin : c.WithinLimit := h.within fun limit _ => hb.read ▸ Nat.zero_le limit
  rw [WithinLimit, h.limit] at hwithin
  refine le_allowed ?_ hwithin
  rw [hb.read_eq h, h.pending, List.length_append]
  exact Nat.le_add_right _ _

theorem read_of_exhausted (hend : c.Exhausted) :
    c.read = allowed b.limit b.pending.length := by
  refine Nat.le_antisymm (hb.read_le h) ?_
  rcases hend with hnone | hfull
  · rw [hb.read_eq h, h.pending, hnone, List.append_nil]
    exact allowed_le_count _ _
  · obtain ⟨limit, hlimit, hfull⟩ := c.isFull_iff.mp hfull
    rw [h.limit] at hlimit
    exact Nat.le_trans (allowed_le hlimit _) hfull

omit h in
/-- Observations of a whole pass are those of the measured entries among all that may be read. -/
theorem outcome_accounts {observations : List (Observation α)}
    (hloaded : b.outcome.observations = .ok observations) :
    b.outcome.batch.read = allowed b.limit b.pending.length ∧
      observations.length + b.outcome.batch.skipped = b.outcome.batch.read ∧
      ∃ entries : List (StoredObservation α),
        b.pending.take b.outcome.batch.read = entries.map .ok ∧ observations.map (·.label) =
          (entries.filter fun o => (o.mount b.source).isSome).map (·.label) := by
  obtain ⟨hend, taken, h⟩ := outcome_passes hloaded
  have hcount := hb.length_add_skipped h
  rw [List.length_map] at hcount
  refine ⟨hb.read_of_exhausted h hend, hcount, ?_⟩
  rw [hb.take_read h]
  exact labels_of_answers h.answers

end Fresh

end Opened

/-- A batch that has been opened on some rows and was asked `n` times since, with the items that it
has answered. -/
structure Conserves (rows : StoredRows α) (site : Site α) (limit : Option Nat)
    (source : MountSource) (n : Nat) (items : List (Except PointingError (Observation α)))
    (b : Batch α) : Prop where
  within : ∀ m ∈ limit, b.read ≤ m
  taken : b.read ≤ rows.length ∧ b.pending = rows.drop b.read
  count : items.length + b.skipped = b.read
  answers : items = (rows.take b.read).filterMap (answer? source site)
  exhausted : items.length < n → b.read = allowed limit rows.length
  /-- Neither an error nor a skipped row keeps the later rows from being answered. -/
  complete : items =
    ((rows.take (allowed limit rows.length)).filterMap (answer? source site)).take n

omit [Scalar α] [NumberText α] in
theorem load_eq_ok_iff {store : ObservationStore α} {site : Site α} {limit : Option Nat}
    {source : MountSource} {log : LogTarget} {b : Batch α} :
    load store site limit source log = .ok b ↔ ∃ rows, store.rows = .ok rows ∧
      b = ⟨rows, site, source, limit, 0, 0, log.child "loader"⟩ := by
  unfold load
  cases store.rows <;> simp [Except.map, eq_comm]

theorem Fresh.conserves {b : Batch α} (hb : b.Fresh) (n : Nat) :
    Conserves b.pending b.site b.limit b.source n (ask n b).1 (ask n b).2 := by
  obtain ⟨hmost, hend, taken, h⟩ := ask_passes n b
  have hallowed := hb.read_le h
  have htake := hb.take_read h
  have hexhausted : (ask n b).1.length < n →
      (ask n b).2.read = allowed b.limit b.pending.length :=
    fun hfew => hb.read_of_exhausted h (hend hfew)
  refine ⟨fun m hm => Nat.le_trans hallowed (allowed_le hm _),
    ⟨Nat.le_trans hallowed (allowed_le_count _ _), (hb.drop_read h).symm⟩,
    hb.length_add_skipped h, ?_, hexhausted, ?_⟩
  · rw [htake, h.answers]
  · rcases Nat.lt_or_eq_of_le hmost with hfew | hall
    · rw [← hexhausted hfew, htake, ← h.answers, List.take_of_length_le hmost]
    · have htaken : taken <+: b.pending.take (allowed b.limit b.pending.length) :=
        htake ▸ List.take_prefix_take_left hallowed
      have hprefix := htaken.filterMap (answer? b.source b.site)
      rw [← h.answers, List.prefix_iff_eq_take, hall] at hprefix
      exact hprefix

/-- What is read of a store is skipped or answered, however often a batch has been asked. -/
theorem load_conserves (description : String) (rows : StoredRows α) (site : Site α)
    (limit : Option Nat) (source : MountSource) (log : LogTarget) :
    ∃ b, load ⟨description, .ok rows⟩ site limit source log = .ok b ∧
      ∀ n, Conserves rows site limit source n (ask n b).1 (ask n b).2 := by
  let b : Batch α := ⟨rows, site, source, limit, 0, 0, log.child "loader"⟩
  have hb : b.Fresh := ⟨rfl, rfl⟩
  exact ⟨b, rfl, hb.conserves⟩

end Batch

end TelescopePointing
