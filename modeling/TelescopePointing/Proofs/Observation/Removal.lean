import Mathlib.Data.Finset.Card
import TelescopePointing.Proofs.Disk.Changes
import TelescopePointing.Proofs.Observation.Deletion

namespace TelescopePointing

/-- What is written of a table, less some of its rows, is read back. -/
def Table.ReadsBack (t : Table) : Prop :=
  t.header ≠ [] → ∀ kept, kept.Sublist t.rows → ofText (render (t.header :: kept)) = ⟨t.header, kept⟩

theorem Table.readsBack_of_unmarked {text : String} (h : Unmarked (ofText text).header) :
    (ofText text).ReadsBack := by
  intro hne kept hkept
  exact ofText_render hne h fun r hr => ofText_rows_ne_nil text r (hkept.mem hr)

namespace ObservationFile

variable {d d' : Disk} {path text : String} {t : Table} {p q : List String}

/-- Whether a row has a number, in plain digits, in the first column that is named plainly. -/
def numbers (t : Table) (id : Nat) (row : List String) : Bool :=
  (idCell? t row).any fun cell => Text.trim cell == toString id

theorem numbers_eq_holds {column : Nat} (h : t.header.idxOf? idColumn = some column) :
    numbers t = holds column := by
  funext id row
  rw [numbers, idCell?, h]
  rfl

theorem numbers_unique {id other : Nat} {row : List String} (h : numbers t id row = true)
    (h' : numbers t other row = true) : id = other := by
  unfold numbers at h h'
  cases hcell : idCell? t row with
  | none => simp [hcell] at h
  | some cell =>
    simp only [hcell, Option.any_some, beq_iff_eq] at h h'
    exact Decimal.toString_injective (h.symm.trans h')

def without (t : Table) (ids : List Nat) : Table :=
  ⟨t.header, t.rows.filter fun row => !ids.any fun id => numbers t id row⟩

def present (t : Table) (ids : List Nat) : Finset Nat :=
  ids.toFinset.filter fun id => t.rows.any (numbers t id)

theorem without_nil (t : Table) : without t [] = t := by simp [without]

theorem numbers_without (t : Table) (ids : List Nat) : numbers (without t ids) = numbers t := rfl

theorem without_without (t : Table) (id : Nat) (rest : List Nat) :
    without (without t [id]) rest = without t (id :: rest) := by
  have hrows : (without (without t [id]) rest).rows = (without t (id :: rest)).rows := by
    change ((t.rows.filter fun row => !([id].any fun other => numbers t other row)).filter
      fun row => !(rest.any fun other => numbers t other row)) = _
    rw [List.filter_filter]
    apply List.filter_congr
    intro row _
    rw [List.any_cons, List.any_nil, Bool.or_false, List.any_cons, Bool.not_or, Bool.and_comm]
  exact congrArg (Table.mk t.header) hrows

theorem any_without (t : Table) (id other : Nat) :
    (without t [id]).rows.any (numbers t other) = true ↔
      other ≠ id ∧ t.rows.any (numbers t other) = true := by
  simp only [List.any_eq_true, without, List.mem_filter, List.any_cons, List.any_nil, Bool.or_false,
    Bool.not_eq_true']
  constructor
  · rintro ⟨row, ⟨hrow, hkept⟩, hother⟩
    refine ⟨?_, row, hrow, hother⟩
    rintro rfl
    rw [hother] at hkept
    cases hkept
  · rintro ⟨hne, row, hrow, hother⟩
    refine ⟨row, ⟨hrow, ?_⟩, hother⟩
    rw [Bool.eq_false_iff]
    exact fun hid => hne (numbers_unique hother hid)

/-- An entry counts once: when its rows are gone it is not found again. -/
theorem card_present_cons (t : Table) (id : Nat) (rest : List Nat) :
    (present t (id :: rest)).card =
      (if t.rows.any (numbers t id) then 1 else 0) + (present (without t [id]) rest).card := by
  have herase : present (without t [id]) rest = (present t rest).erase id := by
    ext other
    simp only [present, numbers_without, Finset.mem_filter, Finset.mem_erase, any_without]
    tauto
  rw [herase, present, List.toFinset_cons, Finset.filter_insert]
  split
  next hid =>
    have hmem : id ∈ insert id (present t rest) := Finset.mem_insert_self id _
    have hcard := Finset.card_erase_add_one hmem
    rw [Finset.erase_insert_eq_erase] at hcard
    rw [add_comm]
    exact hcard.symm
  next hid =>
    have hnot : id ∉ present t rest := fun hmem => hid (Finset.mem_filter.mp hmem).2
    rw [Finset.erase_eq_of_notMem hnot, zero_add]
    rfl

theorem without_congr {ids other : List Nat} (h : ∀ id, id ∈ ids ↔ id ∈ other) (t : Table) :
    without t ids = without t other ∧ present t ids = present t other := by
  have hany : ∀ row, (ids.any fun id => numbers t id row) =
      other.any fun id => numbers t id row := by
    intro row
    rw [Bool.eq_iff_iff, List.any_eq_true, List.any_eq_true]
    simp only [h]
  have hset : ids.toFinset = other.toFinset := by
    ext id
    rw [List.mem_toFinset, List.mem_toFinset, h]
  simp only [without, present, hany, hset, and_self]

theorem readsBack_without (h : t.ReadsBack) (ids : List Nat) : (without t ids).ReadsBack :=
  fun hne kept hkept => h hne kept (hkept.trans List.filter_sublist)

structure Editable (t : Table) : Prop where
  column : idColumn ∈ t.header
  rows : ∀ row ∈ t.rows, t.fits row = true

theorem Editable.without (h : Editable t) (ids : List Nat) : Editable (without t ids) :=
  ⟨h.column, fun row hrow => h.rows row (List.mem_filter.mp hrow).1⟩

theorem delete_editable (hread : d.read path = .ok text) (ht : Table.ofText text = t)
    (hedit : Editable t) (hback : t.ReadsBack) (hroom : d.TakesCopy path p q) (id : Nat) :
    ∃ d' left, delete d path id = (.ok (t.rows.any (numbers t id)), d') ∧
      d'.read path = .ok left ∧ Table.ofText left = without t [id] ∧ d'.TakesCopy path p q := by
  obtain ⟨column, hcolumn⟩ := Option.isSome_iff_exists.mp (List.isSome_idxOf?.mpr hedit.column)
  have htake : t.rows.takeWhile t.fits = t.rows := List.takeWhile_eq_self_iff.mpr hedit.rows
  have hdrop : t.rows.dropWhile t.fits = [] := List.dropWhile_eq_nil_iff.mpr hedit.rows
  obtain ⟨written, renamed, hwrite, hrename, hleft, hroom'⟩ :=
    hroom.replace (Table.render (t.header :: t.rows.filter fun row => !holds column id row))
  have hne : t.header ≠ [] := List.ne_nil_of_mem hedit.column
  refine ⟨renamed, _, ?_, hleft, ?_, hroom'⟩
  · simp only [delete, hread, ht, hcolumn, copyWithout, htake, hdrop, hwrite, hrename,
      numbers_eq_holds hcolumn]
  · rw [hback hne _ List.filter_sublist, without, numbers_eq_holds hcolumn]
    simp

theorem delete_fails (hd : d.WellFormed) (hread : d.read path = .ok text)
    (h : ¬ (Editable (Table.ofText text) ∧ ∃ p q, d.TakesCopy path p q)) (id : Nat) :
    ∃ e d', delete d path id = (.error e, d') ∧ d'.read path = .ok text := by
  cases hcolumn : (Table.ofText text).header.idxOf? idColumn with
  | none =>
    have hmissing := delete_missing hread (List.idxOf?_eq_none_iff.mp hcolumn) id
    exact ⟨_, d, hmissing, hread⟩
  | some column =>
    have hmem : idColumn ∈ (Table.ofText text).header :=
      List.isSome_idxOf?.mp (Option.isSome_iff_exists.mpr ⟨column, hcolumn⟩)
    simp only [delete, hread, hcolumn, copyWithout]
    split
    next fault _ => exact ⟨_, d, rfl, hread⟩
    next written hwrite =>
      have hkept := hd.read_of_write_copy hread hwrite
      split
      next broken _ _ => exact ⟨_, written, rfl, hkept⟩
      next hsound =>
        have hedit : Editable (Table.ofText text) := ⟨hmem, List.dropWhile_eq_nil_iff.mp hsound⟩
        split
        next renamed hrename =>
          exact absurd ⟨hedit, hd.takesCopy hread hwrite hrename⟩ h
        next fault _ => exact ⟨_, written, rfl, hkept⟩

/-- The paths that deleting from a file writes to: the copy takes its place. -/
def deletionPaths (path : String) : List String := [Path.withExtension path "csv.tmp", path]

theorem copyWithout_changes (d : Disk) (path : String) (t : Table) (column id : Nat) :
    d.ChangesOnly (deletionPaths path) (copyWithout d path t column id).2 := by
  unfold copyWithout
  dsimp only
  split
  next => exact .refl _ d
  next written hwrite =>
    have hwritten : d.ChangesOnly (deletionPaths path) written :=
      (Disk.ChangesOnly.write hwrite).mono (by simp [deletionPaths])
    split
    next => exact hwritten
    next =>
      split
      next renamed hrename => exact hwritten.trans (.rename hrename)
      next => exact hwritten

theorem delete_changes (d : Disk) (path : String) (id : Nat) :
    d.ChangesOnly (deletionPaths path) (delete d path id).2 := by
  unfold delete
  split
  next => exact .refl _ d
  next => exact .refl _ d
  next text _ =>
    dsimp only
    split
    next => exact .refl _ d
    next column _ => exact copyWithout_changes d path _ column id

theorem lone_wellFormed (text : String) : (lone text).WellFormed where
  home := rfl
  parent q n hq := by
    by_cases h : q = ["a"]
    · rw [h]
      rfl
    · have hnone : (lone text).nodes.lookup q = none := by simp [lone, h]
      cases q with
      | nil => rfl
      | cons name names =>
        change (lone text).nodes.lookup (name :: names) = some n at hq
        rw [hnone] at hq
        cases hq

end ObservationFile

end TelescopePointing
