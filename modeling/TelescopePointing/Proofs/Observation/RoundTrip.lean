import TelescopePointing.Proofs.Observation.Cells
import TelescopePointing.Proofs.Observation.Removal

namespace TelescopePointing.ObservationFile

open StoredObservation (columns)

def deleteEach (path : String) : List Nat → Disk → Except PointingError (List Bool) × Disk
  | [], d => (.ok [], d)
  | id :: rest, d =>
    match delete d path id with
    | (.ok removed, left) =>
      let later := deleteEach path rest left
      (later.1.map (removed :: ·), later.2)
    | (.error e, left) => (.error e, left)

def Rewritable (d : Disk) (path : String) : Prop :=
  ∀ text, ∃ written, d.write path text = .ok written ∧ Replaceable written path

section Remaining

variable {α : Type} (observations : List (StoredObservation α)) (id : Nat) (rest : List Nat)

def remaining (ids : List Nat) : List (StoredObservation α) :=
  observations.filter fun o => !ids.contains o.id

/-- For each of some deletions, whether the ones before it have left any rows of its entry. -/
def stillPresent (ids : List Nat) : List Bool :=
  ids.mapIdx fun k id => (remaining observations (ids.take k)).any fun o => o.id == id

theorem remaining_nil : remaining observations [] = observations :=
  List.filter_eq_self.mpr fun _ _ => rfl

theorem remaining_cons :
    remaining observations (id :: rest) = remaining (remaining observations [id]) rest := by
  unfold remaining
  rw [List.filter_filter]
  refine List.filter_congr fun o _ => ?_
  rw [List.contains_cons, List.contains_cons, List.contains_nil, Bool.or_false, Bool.not_or,
    Bool.and_comm]

theorem stillPresent_cons : stillPresent observations (id :: rest) =
    (observations.any fun o => o.id == id) :: stillPresent (remaining observations [id]) rest := by
  have hlater : ∀ k, remaining observations ((id :: rest).take (k + 1)) =
      remaining (remaining observations [id]) (rest.take k) :=
    fun k => remaining_cons observations id (rest.take k)
  simp only [stillPresent, List.mapIdx_cons, List.take_zero, remaining_nil, hlater]

end Remaining

section Kept

variable {α : Type} [NumberText α] {d : Disk} {path : String} {p q : List String}
  {observations : List (StoredObservation α)}

def tableOf (observations : List (StoredObservation α)) : Table :=
  ⟨columns, observations.map StoredObservation.cells⟩

theorem numbers_cells (others : List (StoredObservation α)) (id : Nat) (o : StoredObservation α) :
    numbers (tableOf others) id o.cells = (o.id == id) := by
  have hcell : idCell? (tableOf others) o.cells = some (toString o.id) := rfl
  rw [numbers, hcell, Option.any_some, Decimal.trim_toString, Bool.eq_iff_iff, beq_iff_eq,
    beq_iff_eq]
  exact Decimal.toString_injective.eq_iff

theorem editable_tableOf : Editable (tableOf observations) where
  column := List.mem_cons_self
  rows row hrow := by
    obtain ⟨o, -, rfl⟩ := List.mem_map.mp hrow
    rfl

theorem readsBack_tableOf : (tableOf observations).ReadsBack := by
  have hunmarked : Table.Unmarked columns := by decide
  refine fun hne kept hkept => Table.ofText_render hne hunmarked fun row hrow => ?_
  obtain ⟨o, -, rfl⟩ := List.mem_map.mp (hkept.mem hrow)
  exact List.cons_ne_nil _ _

theorem without_tableOf (id : Nat) :
    without (tableOf observations) [id] = tableOf (remaining observations [id]) := by
  have hrows : (observations.map StoredObservation.cells).filter
      (fun row => !([id].any fun id => numbers (tableOf observations) id row)) =
        (remaining observations [id]).map StoredObservation.cells := by
    rw [List.filter_map, remaining]
    refine congrArg _ (List.filter_congr fun o _ => ?_)
    rw [Function.comp_apply, List.any_cons, List.any_nil, numbers_cells, List.contains_cons,
      List.contains_nil]
  exact congrArg (Table.mk columns) hrows

structure Keeps (d : Disk) (path : String) (p q : List String)
    (observations : List (StoredObservation α)) : Prop where
  table : ∃ text, d.read path = .ok text ∧ Table.ofText text = tableOf observations
  room : d.TakesCopy path p q

theorem create_keeps (hd : d.WellFormed) (hio : Rewritable d path) (hne : observations ≠ []) :
    ∃ created p q, create d path observations = .ok created ∧
      Keeps created path p q observations := by
  have hheader : Table.withHeader columns (observations.map StoredObservation.cells) =
      columns :: observations.map StoredObservation.cells := by
    rw [Table.withHeader, if_neg]
    simpa using hne
  have hback : Table.ofText (Table.render (columns :: observations.map StoredObservation.cells)) =
      tableOf observations := readsBack_tableOf (List.cons_ne_nil _ _) _ (.refl _)
  obtain ⟨created, hwrite, hreplace⟩ :=
    hio (Table.render (columns :: observations.map StoredObservation.cells))
  have hread := Disk.read_of_write hwrite
  obtain ⟨copied, renamed, hcopy, hrename⟩ := hreplace ""
  obtain ⟨p, q, hroom⟩ := (hd.write hwrite).takesCopy hread hcopy hrename
  refine ⟨created, p, q, ?_, ⟨_, hread, hback⟩, hroom⟩
  rw [create, hheader, hwrite]

theorem delete_keeps (h : Keeps d path p q observations) (id : Nat) :
    ∃ left, delete d path id = (.ok (observations.any fun o => o.id == id), left) ∧
      Keeps left path p q (remaining observations [id]) := by
  obtain ⟨text, hread, htable⟩ := h.table
  obtain ⟨left, kept, hdelete, hleft, hwithout, hroom⟩ :=
    delete_editable hread htable editable_tableOf readsBack_tableOf h.room id
  have hpresent : (tableOf observations).rows.any (numbers (tableOf observations) id) =
      observations.any fun o => o.id == id := by
    rw [tableOf, List.any_map]
    exact congrArg (List.any observations) (funext fun o => numbers_cells observations id o)
  rw [hpresent] at hdelete
  exact ⟨left, hdelete, ⟨kept, hleft, hwithout.trans (without_tableOf id)⟩, hroom⟩

theorem deleteEach_keeps (ids : List Nat) (h : Keeps d path p q observations) :
    ∃ left, deleteEach path ids d = (.ok (stillPresent observations ids), left) ∧
      Keeps left path p q (remaining observations ids) := by
  -- A deletion leaves a file of the same kind to the next one.
  induction ids generalizing d observations with
  | nil =>
    rw [remaining_nil]
    exact ⟨d, rfl, h⟩
  | cons id rest ih =>
    obtain ⟨left, hdelete, hleft⟩ := delete_keeps h id
    obtain ⟨last, hlater, hlast⟩ := ih hleft
    rw [← remaining_cons] at hlast
    refine ⟨last, ?_, hlast⟩
    simp only [deleteEach, hdelete, hlater, stillPresent_cons]
    rfl

end Kept

theorem rows_of_keeps {d : Disk} {path : String} {p q : List String}
    {observations : List (StoredObservation Float)} (h : Keeps d path p q observations)
    (hstorable : ∀ o ∈ observations, o.Storable)
    (hnumbers : ∀ o ∈ observations, ∀ x ∈ o.numbers, StoredObservation.ReadsBack x) :
    rows d path = .ok (observations.map .ok) := by
  obtain ⟨text, hread, htable⟩ := h.table
  have hcells : (tableOf observations).rows = observations.map StoredObservation.cells := rfl
  have hheader : (tableOf observations).header = columns := rfl
  rw [rows_of_read hread, readText, htable, hcells, List.map_map]
  refine congrArg Except.ok (List.map_congr_left fun o ho => ?_)
  rw [Function.comp_apply, readRow_cells hheader (hstorable o ho) (hnumbers o ho)]

/-- Observations that were written and then deleted one entry after another leave just those of the
other entries, and every deletion tells whether its entry was still there. -/
theorem create_deleteEach {d : Disk} {path : String} (hd : d.WellFormed)
    (hio : Rewritable d path) {observations : List (StoredObservation Float)}
    (hne : observations ≠ []) (hstorable : ∀ o ∈ observations, o.Storable)
    (hnumbers : ∀ o ∈ observations, ∀ x ∈ o.numbers, StoredObservation.ReadsBack x)
    (ids : List Nat) :
    ∃ created left, create d path observations = .ok created ∧
      deleteEach path ids created = (.ok (stillPresent observations ids), left) ∧
      rows left path = .ok ((remaining observations ids).map .ok) := by
  obtain ⟨created, p, q, hcreate, hkeeps⟩ := create_keeps hd hio hne
  obtain ⟨left, hdelete, hleft⟩ := deleteEach_keeps ids hkeeps
  refine ⟨created, left, hcreate, hdelete, rows_of_keeps hleft ?_ ?_⟩
  · exact fun o ho => hstorable o (List.mem_of_mem_filter ho)
  · exact fun o ho => hnumbers o (List.mem_of_mem_filter ho)

def quotedStars : List (StoredObservation Float) :=
  [⟨7, 1.5, -50.25, none, none, some 1.0471, some (-0.5), "a, \"b\"\nc", 1e-300, 650.0, 0.0,
      some "x,y.fits"⟩,
    { star 8 with date := "-\r\n-" },
    { star 7 with astrometricAscension := some 3.0, image := some "\"" }]

theorem create_deleteEach_stars :
    (lone "").WellFormed ∧ Rewritable (lone "") "a" ∧ quotedStars ≠ [] ∧
      (∀ o ∈ quotedStars, o.Storable) ∧
      (∀ o ∈ quotedStars, ∀ x ∈ o.numbers, StoredObservation.ReadsBack x) ∧
      stillPresent quotedStars [9, 7, 7] = [false, true, false] ∧
      ∃ created left, create (lone "") "a" quotedStars = .ok created ∧
        deleteEach "a" [9, 7, 7] created = (.ok (stillPresent quotedStars [9, 7, 7]), left) ∧
        rows left "a" = .ok ((remaining quotedStars [9, 7, 7]).map .ok) := by
  have hio : Rewritable (lone "") "a" := by
    intro text
    have hwrite : (lone "").write "a" text = .ok (lone text) :=
      Disk.write_eq_ok_iff.mpr
        ⟨["a"], lone_place "" (.inl rfl), nofun, lone_names (.inl rfl), rfl⟩
    exact ⟨lone text, hwrite, lone_replaceable text⟩
  have hne : quotedStars ≠ [] := List.cons_ne_nil _ _
  have hids : ∀ o ∈ quotedStars, o.id < UInt64.size := by decide
  have hnumbers : ∀ o ∈ quotedStars, ∀ x ∈ o.numbers, StoredObservation.ReadsBack x := by
    unfold StoredObservation.ReadsBack
    decide +kernel
  have hdates : ∀ o ∈ quotedStars, Text.trim o.date = o.date := by decide
  have himages : ∀ o ∈ quotedStars, ∀ name ∈ o.image, name ≠ "" ∧ Text.trim name = name := by
    decide
  have hstorable : ∀ o ∈ quotedStars, o.Storable := fun o ho =>
    ⟨hids o ho, hdates o ho, himages o ho⟩
  have hpresent : stillPresent quotedStars [9, 7, 7] = [false, true, false] := by decide
  exact ⟨lone_wellFormed "", hio, hne, hstorable, hnumbers, hpresent,
    create_deleteEach (lone_wellFormed "") hio hne hstorable hnumbers [9, 7, 7]⟩

end TelescopePointing.ObservationFile
