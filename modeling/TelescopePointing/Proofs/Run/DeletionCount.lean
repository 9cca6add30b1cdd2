import Mathlib.Algebra.Order.BigOperators.Group.Finset
import TelescopePointing.Proofs.Run.Deletion

namespace TelescopePointing

namespace ObservationFile

def multiplicity (t : Table) (id : Nat) : Nat := t.rows.countP (numbers t id)

variable (t : Table) (ids : List Nat)

/-- A row belongs to one entry at most, so it counts for one of the list or for none. -/
theorem sum_numbers (row : List String) :
    ∑ id ∈ ids.toFinset, (if numbers t id row then 1 else 0) =
      if ids.any fun id => numbers t id row then 1 else 0 := by
  split
  next hany =>
    obtain ⟨id, hid, hrow⟩ := List.any_eq_true.mp hany
    rw [Finset.sum_eq_single id, if_pos hrow]
    · intro other _ hne
      exact if_neg fun hother => hne (numbers_unique hother hrow)
    · exact fun hnot => absurd (List.mem_toFinset.mpr hid) hnot
  next hnone =>
    refine Finset.sum_eq_zero fun id hid => if_neg fun hrow => hnone ?_
    exact List.any_eq_true.mpr ⟨id, List.mem_toFinset.mp hid, hrow⟩

theorem sum_countP_numbers (rows : List (List String)) :
    ∑ id ∈ ids.toFinset, rows.countP (numbers t id) =
      rows.countP fun row => ids.any fun id => numbers t id row := by
  induction rows with
  | nil => simp
  | cons row rows ih =>
    simp only [List.countP_cons]
    rw [Finset.sum_add_distrib, ih, sum_numbers]

theorem length_without : (without t ids).rows.length + ∑ id ∈ ids.toFinset, multiplicity t id =
    t.rows.length := by
  have hsplit := List.length_eq_countP_add_countP
    (fun row => ids.any fun id => numbers t id row) (l := t.rows)
  simp only [multiplicity]
  rw [sum_countP_numbers, without, ← List.countP_eq_length_filter, hsplit, add_comm]
  simp only [Bool.not_eq_true, Bool.decide_eq_false]

theorem mem_present {id : Nat} : id ∈ present t ids ↔ id ∈ ids ∧ 0 < multiplicity t id := by
  rw [present, Finset.mem_filter, List.mem_toFinset, multiplicity, List.countP_pos_iff,
    List.any_eq_true]

theorem sum_present :
    ∑ id ∈ present t ids, multiplicity t id = ∑ id ∈ ids.toFinset, multiplicity t id := by
  refine Finset.sum_subset (Finset.filter_subset _ _) fun id hid hnot => ?_
  rw [mem_present, List.mem_toFinset.mp hid |> and_iff_right] at hnot
  exact Nat.eq_zero_of_not_pos hnot

/-- Every entry that is found has a row, so more entries than rows are never found. -/
theorem card_present_le : (present t ids).card ≤ ∑ id ∈ ids.toFinset, multiplicity t id := by
  rw [Finset.card_eq_sum_ones, ← sum_present]
  exact Finset.sum_le_sum fun id hid => ((mem_present t ids).mp hid).2

/-- There are as many entries as rows when no entry has two of them. -/
theorem card_present_eq_iff : (present t ids).card = ∑ id ∈ ids.toFinset, multiplicity t id ↔
    ∀ id ∈ ids, multiplicity t id ≤ 1 := by
  have hpos : ∀ id ∈ present t ids, 1 ≤ multiplicity t id := fun id hid =>
    ((mem_present t ids).mp hid).2
  rw [Finset.card_eq_sum_ones, ← sum_present, Finset.sum_eq_sum_iff_of_le hpos]
  constructor
  · intro hone id hid
    by_contra hmany
    have hmem : id ∈ present t ids := (mem_present t ids).mpr ⟨hid, by omega⟩
    exact hmany (hone id hmem).ge
  · intro hatMost id hid
    exact le_antisymm (hpos id hid) (hatMost id ((mem_present t ids).mp hid).1)

end ObservationFile

open ObservationFile

/-- A deletion tells how many of the entries that it was asked for had rows, each of which may have
had several. So it tells how many rows are gone just when none of them had more than one. -/
theorem PointingRun.deleteEntries_counts {α : Type} [Scalar α] [NumberText α] (run : PointingRun α)
    {d : Disk} {text : String} (hd : d.WellFormed)
    (hread : d.read run.config.observationPath = .ok text)
    (hback : (Table.ofText text).ReadsBack) {ids : List Nat} {n : Nat}
    (hresult : (run.deleteEntries d ids).result = .ok n) :
    ∃ left, (run.deleteEntries d ids).disk.read run.config.observationPath = .ok left ∧
      let before := Table.ofText text
      let after := Table.ofText left
      n = (ids.toFinset.filter fun id => 0 < multiplicity before id).card ∧
      after.rows.length + ∑ id ∈ ids.toFinset, multiplicity before id = before.rows.length ∧
      n ≤ before.rows.length - after.rows.length ∧
      (n = before.rows.length - after.rows.length ↔ ∀ id ∈ ids, multiplicity before id ≤ 1) := by
  have hcan : run.CanDelete d (Table.ofText text) ids := by
    by_contra hcannot
    obtain ⟨e, he⟩ := (run.deleteEntries_fails hd hread hcannot).result
    rw [hresult] at he
    cases he
  have hremoves := run.deleteEntries_removes hread hback hcan
  obtain ⟨left, hleft, hwithout⟩ := hremoves.file
  obtain rfl : n = (present (Table.ofText text) ids).card :=
    Except.ok.inj (hresult.symm.trans hremoves.result)
  have hfound : present (Table.ofText text) ids =
      ids.toFinset.filter fun id => 0 < multiplicity (Table.ofText text) id := by
    ext id
    rw [mem_present, Finset.mem_filter, List.mem_toFinset]
  have hlength := length_without (Table.ofText text) ids
  have hgone : (Table.ofText text).rows.length -
      (without (Table.ofText text) ids).rows.length =
        ∑ id ∈ ids.toFinset, multiplicity (Table.ofText text) id := by
    omega
  refine ⟨left, hleft, ?_⟩
  simp only [hwithout, hgone]
  exact ⟨congrArg Finset.card hfound, hlength, card_present_le _ ids, card_present_eq_iff _ ids⟩

section Stars

variable (numbers : List String)

theorem read_stars : (lone (starText starColumns numbers)).read bareRun.config.observationPath =
    .ok (starText starColumns numbers) := by
  rw [bareRun_path]
  exact lone_read _

theorem ofText_stars :
    Table.ofText (starText starColumns numbers) = ⟨starColumns, numbers.map starCells⟩ :=
  ofText_starText (by decide) (by decide) numbers

theorem readsBack_stars : (Table.ofText (starText starColumns numbers)).ReadsBack := by
  have hunmarked : Table.Unmarked starColumns := by decide
  refine Table.readsBack_of_unmarked ?_
  rwa [ofText_stars]

theorem removes_stars (ids : List Nat) :
    (bareRun.deleteEntries (lone (starText starColumns numbers)) ids).Removes
      bareRun.config.observationPath ⟨starColumns, numbers.map starCells⟩ ids := by
  have hedit : Editable ⟨starColumns, numbers.map starCells⟩ := by
    have hcolumn : idColumn ∈ starColumns := by decide
    refine ⟨hcolumn, fun row hrow => ?_⟩
    obtain ⟨number, -, rfl⟩ := List.mem_map.mp hrow
    rfl
  have hroom : ∃ p q, (lone (starText starColumns numbers)).TakesCopy
      bareRun.config.observationPath p q := by
    rw [bareRun_path]
    obtain ⟨written, renamed, hwrite, hrename⟩ := lone_replaceable (starText starColumns numbers) ""
    exact (lone_wellFormed _).takesCopy (lone_read _) hwrite hrename
  rw [← ofText_stars]
  refine bareRun.deleteEntries_removes (read_stars numbers) (readsBack_stars numbers) ⟨rfl, .inr ?_⟩
  rw [ofText_stars]
  exact ⟨hedit, hroom⟩

end Stars

theorem deleteEntries_counts_stars :
    let d := lone (starText starColumns ["7", "8", "9"])
    let before := Table.ofText (starText starColumns ["7", "8", "9"])
    d.WellFormed ∧ before.ReadsBack ∧ (bareRun.deleteEntries d [8, 7, 8]).result = .ok 2 ∧
      ∃ left, (bareRun.deleteEntries d [8, 7, 8]).disk.read bareRun.config.observationPath =
          .ok left ∧ 2 = before.rows.length - (Table.ofText left).rows.length := by
  intro d before
  have hresult : (bareRun.deleteEntries d [8, 7, 8]).result = .ok 2 :=
    (removes_stars ["7", "8", "9"] [8, 7, 8]).result
  obtain ⟨left, hleft, -, -, -, hexact⟩ := bareRun.deleteEntries_counts (lone_wellFormed _)
    (read_stars _) (readsBack_stars _) hresult
  refine ⟨lone_wellFormed _, readsBack_stars _, hresult, left, hleft, hexact.mpr ?_⟩
  rw [ofText_stars]
  decide

theorem deleteEntries_miscounts :
    let d := lone (starText starColumns ["7", "8", "7"])
    let before := Table.ofText (starText starColumns ["7", "8", "7"])
    before.rows.length = 3 ∧ (bareRun.deleteEntries d [7]).result = .ok 1 ∧
      ∃ left, (bareRun.deleteEntries d [7]).disk.read bareRun.config.observationPath = .ok left ∧
        (Table.ofText left).rows.length = 1 ∧
        1 ≠ before.rows.length - (Table.ofText left).rows.length := by
  intro d before
  obtain ⟨hresult, left, hleft, hwithout⟩ := removes_stars ["7", "8", "7"] [7]
  have hbefore : before.rows.length = 3 := by simp only [before, ofText_stars]; rfl
  have hafter : (Table.ofText left).rows.length = 1 := by rw [hwithout]; decide
  refine ⟨hbefore, hresult, left, hleft, hafter, ?_⟩
  rw [hbefore, hafter]
  decide

end TelescopePointing
