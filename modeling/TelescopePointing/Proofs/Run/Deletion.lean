import TelescopePointing.Proofs.Observation.Removal
import TelescopePointing.Run.Deletion

namespace TelescopePointing

open ObservationFile

namespace Deletion

variable {d : Disk} {path text : String} {t : Table} {p q : List String}

structure Fails (x : Deletion) (path text : String) : Prop where
  result : ∃ e, x.result = .error e
  file : x.disk.read path = .ok text

structure Removes (x : Deletion) (path : String) (t : Table) (ids : List Nat) : Prop where
  result : x.result = .ok (present t ids).card
  file : ∃ left, x.disk.read path = .ok left ∧ Table.ofText left = without t ids

theorem ofFile_editable (log : LogTarget) (ids : List Nat) (removed : Nat)
    (hread : d.read path = .ok text) (ht : Table.ofText text = t) (hedit : Editable t)
    (hback : t.ReadsBack) (hroom : d.TakesCopy path p q) :
    (ofFile log path ids removed d).result = .ok (removed + (present t ids).card) ∧
      ∃ left, (ofFile log path ids removed d).disk.read path = .ok left ∧
        Table.ofText left = without t ids := by
  -- What one deletion needs of the disk and the table it also leaves to the next one.
  induction ids generalizing d text t removed with
  | nil => exact ⟨rfl, text, hread, ht.trans (without_nil t).symm⟩
  | cons id rest ih =>
    obtain ⟨d', left, hdelete, hleft, hwithout, hroom'⟩ :=
      delete_editable hread ht hedit hback hroom id
    obtain ⟨hresult, hfile⟩ := ih (if t.rows.any (numbers t id) then removed + 1 else removed)
      hleft hwithout (hedit.without [id]) (readsBack_without hback [id]) hroom'
    have hcount : (if t.rows.any (numbers t id) = true then removed + 1 else removed) +
        (present (without t [id]) rest).card = removed + (present t (id :: rest)).card := by
      rw [card_present_cons]
      split <;> omega
    simp only [ofFile, hdelete]
    rw [hresult, hcount, ← without_without]
    exact ⟨rfl, hfile⟩

theorem ofFile_fails (log : LogTarget) {ids : List Nat} (hids : ids ≠ []) (removed : Nat)
    (hd : d.WellFormed) (hread : d.read path = .ok text)
    (h : ¬ (Editable (Table.ofText text) ∧ ∃ p q, d.TakesCopy path p q)) :
    (ofFile log path ids removed d).Fails path text := by
  obtain ⟨id, rest, rfl⟩ := List.exists_cons_of_ne_nil hids
  obtain ⟨e, d', hdelete, hkept⟩ := delete_fails hd hread h id
  simp only [ofFile, hdelete]
  exact ⟨⟨_, rfl⟩, hkept⟩

theorem ofFile_changes (log : LogTarget) (path : String) (ids : List Nat) (removed : Nat)
    (d : Disk) :
    d.ChangesOnly (deletionPaths path) (ofFile log path ids removed d).disk := by
  induction ids generalizing removed d with
  | nil => exact .refl _ d
  | cons id rest ih =>
    have hfirst := delete_changes d path id
    unfold ofFile
    split
    next e left hdelete =>
      rw [hdelete] at hfirst
      exact hfirst
    next found left hdelete =>
      rw [hdelete] at hfirst
      exact hfirst.trans (ih _ left)

end Deletion

namespace PointingRun

variable {α : Type} [Scalar α] [NumberText α] (run : PointingRun α) {d : Disk} {text : String}

/-- When the entries of a list can be deleted: the options are consistent, and unless the list is
empty the table is sound and there is room for its copy. -/
def CanDelete (run : PointingRun α) (d : Disk) (t : Table) (ids : List Nat) : Prop :=
  run.check = .ok () ∧
    (ids = [] ∨ Editable t ∧ ∃ p q, d.TakesCopy run.config.observationPath p q)

theorem deleteEntries_removes (hread : d.read run.config.observationPath = .ok text)
    (hback : (Table.ofText text).ReadsBack) {ids : List Nat}
    (h : run.CanDelete d (Table.ofText text) ids) :
    (run.deleteEntries d ids).Removes run.config.observationPath (Table.ofText text) ids := by
  obtain ⟨hcheck, rfl | ⟨hedit, p, q, hroom⟩⟩ := h
  · simp only [deleteEntries, hcheck]
    exact ⟨rfl, text, hread, (without_nil _).symm⟩
  · obtain ⟨hresult, hfile⟩ := Deletion.ofFile_editable run.log ids 0 hread rfl hedit hback hroom
    rw [Nat.zero_add] at hresult
    simp only [deleteEntries, hcheck]
    exact ⟨hresult, hfile⟩

theorem deleteEntries_fails (hd : d.WellFormed)
    (hread : d.read run.config.observationPath = .ok text) {ids : List Nat}
    (h : ¬ run.CanDelete d (Table.ofText text) ids) :
    (run.deleteEntries d ids).Fails run.config.observationPath text := by
  unfold deleteEntries
  cases hcheck : run.check with
  | error e => exact ⟨⟨e, rfl⟩, hread⟩
  | ok _ =>
    obtain ⟨hids, hroom⟩ := not_or.mp (not_and.mp h hcheck)
    exact Deletion.ofFile_fails run.log hids 0 hd hread hroom

theorem deleteEntries_changes (d : Disk) (ids : List Nat) :
    d.ChangesOnly (deletionPaths run.config.observationPath)
      (run.deleteEntries d ids).disk := by
  unfold deleteEntries
  split
  · exact .refl _ d
  · exact Deletion.ofFile_changes _ _ ids 0 d

/-- Either the entries of a list are all gone and nothing else is, or the file is as it was. Which of
the two it is, what is left and how many entries are told to be gone depends only on which entries
are in the list. -/
theorem deleteEntries_allOrNothing (hd : d.WellFormed)
    (hread : d.read run.config.observationPath = .ok text)
    (hback : (Table.ofText text).ReadsBack) :
    (∀ ids, (run.deleteEntries d ids).Fails run.config.observationPath text ∨
      (run.deleteEntries d ids).Removes run.config.observationPath (Table.ofText text) ids) ∧
    (∀ ids, (∃ n, (run.deleteEntries d ids).result = .ok n) ↔
      run.CanDelete d (Table.ofText text) ids) ∧
    ∀ ids other, (∀ id, id ∈ ids ↔ id ∈ other) →
      (run.deleteEntries d ids).result.toOption = (run.deleteEntries d other).result.toOption ∧
      ((run.deleteEntries d ids).disk.read run.config.observationPath).map Table.ofText =
        ((run.deleteEntries d other).disk.read run.config.observationPath).map Table.ofText := by
  refine ⟨fun ids => ?_, fun ids => ?_, fun ids other hsame => ?_⟩
  · by_cases h : run.CanDelete d (Table.ofText text) ids
    · exact .inr (run.deleteEntries_removes hread hback h)
    · exact .inl (run.deleteEntries_fails hd hread h)
  · constructor
    · rintro ⟨n, hn⟩
      by_contra h
      obtain ⟨e, he⟩ := (run.deleteEntries_fails hd hread h).result
      rw [hn] at he
      cases he
    · intro h
      exact ⟨_, (run.deleteEntries_removes hread hback h).result⟩
  · obtain ⟨hwithout, hpresent⟩ := without_congr hsame (Table.ofText text)
    have hempty : ids = [] ↔ other = [] := by
      rw [List.eq_nil_iff_forall_not_mem, List.eq_nil_iff_forall_not_mem]
      simp only [hsame]
    have hcan : run.CanDelete d (Table.ofText text) ids ↔
        run.CanDelete d (Table.ofText text) other := by
      rw [CanDelete, CanDelete, hempty]
    by_cases h : run.CanDelete d (Table.ofText text) ids
    · have hremoves := run.deleteEntries_removes hread hback h
      have hremoves' := run.deleteEntries_removes hread hback (hcan.mp h)
      obtain ⟨left, hleft, htable⟩ := hremoves.file
      obtain ⟨left', hleft', htable'⟩ := hremoves'.file
      rw [hremoves.result, hremoves'.result, hleft, hleft', hpresent]
      exact ⟨rfl, congrArg Except.ok (htable.trans (hwithout.trans htable'.symm))⟩
    · have hfails := run.deleteEntries_fails hd hread h
      have hfails' := run.deleteEntries_fails hd hread (mt hcan.mpr h)
      obtain ⟨e, he⟩ := hfails.result
      obtain ⟨e', he'⟩ := hfails'.result
      rw [he, he', hfails.file, hfails'.file]
      exact ⟨rfl, rfl⟩

end PointingRun

def bareRun : PointingRun Float :=
  .make { RunConfig.standard with basePath := "", observationFile := "a" } .standard

theorem bareRun_path : bareRun.config.observationPath = "a" := if_pos (Bool.or_true _)

theorem deleteEntries_allOrNothing_stars :
    let text := starText starColumns ["7", "8", "7", "9"]
    (lone text).WellFormed ∧ (lone text).read bareRun.config.observationPath = .ok text ∧
      (Table.ofText text).ReadsBack ∧
      (∃ n, (bareRun.deleteEntries (lone text) [8, 7, 8]).result = .ok n) ∧
      ((bareRun.deleteEntries (lone text) [8, 7, 8]).Fails bareRun.config.observationPath text ∨
        (bareRun.deleteEntries (lone text) [8, 7, 8]).Removes bareRun.config.observationPath
          (Table.ofText text) [8, 7, 8]) ∧
      (bareRun.deleteEntries (lone text) [8, 7, 8]).result.toOption =
        (bareRun.deleteEntries (lone text) [7, 8]).result.toOption := by
  intro text
  have htable : Table.ofText text = ⟨starColumns, ["7", "8", "7", "9"].map starCells⟩ :=
    ofText_starText (by decide) (by decide) _
  have hread : (lone text).read bareRun.config.observationPath = .ok text := by
    rw [bareRun_path]
    exact lone_read text
  have hback : (Table.ofText text).ReadsBack := Table.readsBack_of_unmarked (by rw [htable]; decide)
  have hedit : Editable (Table.ofText text) := by
    rw [htable]
    exact ⟨by decide, by decide⟩
  have hroom : ∃ p q, (lone text).TakesCopy bareRun.config.observationPath p q := by
    rw [bareRun_path]
    obtain ⟨written, renamed, hwrite, hrename⟩ := lone_replaceable text text
    exact (lone_wellFormed text).takesCopy (lone_read text) hwrite hrename
  obtain ⟨hcases, hsucceeds, hsame⟩ :=
    bareRun.deleteEntries_allOrNothing (lone_wellFormed text) hread hback
  refine ⟨lone_wellFormed text, hread, hback, ?_, hcases _, (hsame _ _ (by simp)).1⟩
  exact (hsucceeds _).mpr ⟨rfl, .inr ⟨hedit, hroom⟩⟩

end TelescopePointing
