import Mathlib.Data.List.Nodup
import TelescopePointing.Proofs.Disk.Keeping
import TelescopePointing.Report.Tables

namespace TelescopePointing

namespace Artifact

def tableKinds : List String := ["residual", "projection", "parameters"]

theorem tableName_chars (kind axes tag : String) : (tableName kind axes tag).toList =
    kind.toList ++ '_' :: (axes.toList ++ '_' :: (tag.toList ++ ['.', 'c', 's', 'v'])) := by
  change (kind ++ "_" ++ axes ++ "_" ++ tag ++ ".csv").toList = _
  simp

/-- A kind is known by its first two characters, and the axes of all frames have one length. -/
theorem tableName_injective {kind kind' tag tag' : String} {f f' : FitFrame}
    (hkind : kind ∈ tableKinds) (hkind' : kind' ∈ tableKinds)
    (h : tableName kind f.axes tag = tableName kind' f'.axes tag') :
    kind = kind' ∧ f = f' ∧ tag = tag' := by
  have hlong : ∀ k ∈ tableKinds, 2 ≤ k.toList.length := by decide
  have hinitials : ∀ k ∈ tableKinds, ∀ k' ∈ tableKinds,
      k.toList.take 2 = k'.toList.take 2 → k = k' := by decide
  have haxes : ∀ f : FitFrame, f.axes.toList.length = 6 := by
    intro f
    cases f <;> rfl
  rw [← String.toList_inj, tableName_chars, tableName_chars] at h
  obtain rfl : kind = kind' := by
    refine hinitials kind hkind kind' hkind' ?_
    have htake := congrArg (List.take 2) h
    rwa [List.take_append_of_le_length (hlong kind hkind),
      List.take_append_of_le_length (hlong kind' hkind')] at htake
  have hrest := List.append_cancel_left h
  rw [List.cons.injEq] at hrest
  obtain ⟨hframe, htag⟩ := List.append_inj hrest.2 ((haxes f).trans (haxes f').symm)
  rw [List.cons.injEq] at htag
  refine ⟨rfl, ?_, String.toList_inj.mp (List.append_cancel_right htag.2)⟩
  have hne : FitFrame.horizon.axes.toList ≠ FitFrame.hourAngle.axes.toList := by decide
  cases f <;> cases f'
  · rfl
  · exact absurd hframe hne
  · exact absurd hframe.symm hne
  · rfl

theorem namesOneFile_tableName {kind tag : String} (hkind : kind ∈ tableKinds) (f : FitFrame)
    (htag : '/' ∉ tag.toList) : Path.NamesOneFile (tableName kind f.axes tag) := by
  have hkinds : ∀ k ∈ tableKinds, '/' ∉ k.toList := by decide
  have haxes : '/' ∉ f.axes.toList := by cases f <;> decide
  constructor
  · rw [tableName_chars]
    simp [hkinds kind hkind, haxes, htag]
  · rw [← String.length_toList, tableName_chars]
    simp only [List.length_append, List.length_cons, List.length_nil]
    omega

end Artifact

namespace Report

variable {α : Type}

/-- What tells a report from the others of a sink. -/
def key (r : Report α) : FitFrame × String := (r.frame, r.tag)

def tableNames (r : Report α) : List String :=
  Artifact.tableKinds.map fun kind => Artifact.tableName kind r.frame.axes r.tag

theorem tables_names [Scalar α] [NumberText α] (r : Report α) :
    r.tables.map Prod.fst = r.tableNames := rfl

theorem mem_tableNames {r : Report α} {name : String} : name ∈ r.tableNames ↔
    ∃ kind ∈ Artifact.tableKinds, Artifact.tableName kind r.frame.axes r.tag = name :=
  List.mem_map

theorem key_eq_of_mem_tableNames {r r' : Report α} {name : String} (h : name ∈ r.tableNames)
    (h' : name ∈ r'.tableNames) : r.key = r'.key := by
  obtain ⟨kind, hkind, rfl⟩ := mem_tableNames.mp h
  obtain ⟨kind', hkind', heq⟩ := mem_tableNames.mp h'
  obtain ⟨-, hframe, htag⟩ := Artifact.tableName_injective hkind' hkind heq
  exact Prod.ext hframe.symm htag.symm

theorem nodup_tableNames (r : Report α) : r.tableNames.Nodup := by
  have hkinds : Artifact.tableKinds.Nodup := by decide
  exact (List.nodup_map_iff_inj_on hkinds).mpr fun kind hkind kind' hkind' h =>
    (Artifact.tableName_injective hkind hkind' h).1

/-- Reports that differ in their frames or tags have no table name in common. -/
theorem nodup_flatMap_tableNames {reports : List (Report α)} (h : (reports.map key).Nodup) :
    (reports.flatMap tableNames).Nodup := by
  refine List.nodup_flatMap.mpr ⟨fun r _ => r.nodup_tableNames, ?_⟩
  refine (List.pairwise_map.mp h).imp fun hne name hname hname' => ?_
  exact hne (key_eq_of_mem_tableNames hname hname')

theorem namesOneFile_of_mem {r : Report α} (htag : '/' ∉ r.tag.toList) {name : String}
    (h : name ∈ r.tableNames) : Path.NamesOneFile name := by
  obtain ⟨kind, hkind, rfl⟩ := mem_tableNames.mp h
  exact Artifact.namesOneFile_tableName hkind r.frame htag

end Report

end TelescopePointing
