import Mathlib.Data.List.TakeWhile
import TelescopePointing.Decimal.Text
import TelescopePointing.Proofs.Disk.Copy
import TelescopePointing.Proofs.Observation.Store
import TelescopePointing.Proofs.Table.RoundTrip

namespace TelescopePointing.ObservationFile

variable {α : Type} [NumberText α]

/-- The cell of a row in the first column that is named plainly. -/
def idCell? (t : Table) (row : List String) : Option String :=
  (t.header.idxOf? idColumn).bind fun column => row[column]?

def SpelledPlainly (t : Table) (id : Nat) : Prop :=
  ∀ row ∈ t.rows, ∀ cell ∈ idCell? t row,
    StoredObservation.identifier? (Text.trim cell) = some id → Text.trim cell = toString id

instance (t : Table) (id : Nat) : Decidable (SpelledPlainly t id) :=
  inferInstanceAs (Decidable (∀ row ∈ t.rows, ∀ cell ∈ idCell? t row,
    StoredObservation.identifier? (Text.trim cell) = some id → Text.trim cell = toString id))

theorem holds_of_readRow {path : String} {t : Table} {row : List String}
    {o : StoredObservation α} (h : readRow path t row = .ok o) {column id : Nat}
    (hcolumn : t.header.idxOf? idColumn = some column) (hplain : SpelledPlainly t id)
    (hrow : row ∈ t.rows) : holds column id row = (o.id == id) := by
  obtain ⟨cell, hcell, hid⟩ := cell_of_readRow h hcolumn
  rw [holds, hcell, Option.any_some, Bool.eq_iff_iff, beq_iff_eq, beq_iff_eq]
  constructor
  · intro htext
    rw [htext] at hid
    exact StoredObservation.identifier?_toString hid
  · rintro rfl
    have hmem : cell ∈ idCell? t row := by simp [idCell?, hcolumn, hcell]
    exact hplain row hrow cell hmem hid

theorem deleted_rows {path : String} {t : Table} {column id : Nat} {rows : List (List String)}
    {observations : List (StoredObservation α)}
    (hrows : rows.map (readRow path t) = observations.map .ok)
    (hholds : ∀ row ∈ rows, ∀ o : StoredObservation α, readRow path t row = .ok o →
      holds column id row = (o.id == id)) :
    rows.any (holds column id) = (observations.any fun o => o.id == id) ∧
      (rows.filter fun row => !holds column id row).map (readRow path t) =
        (observations.filter fun o => o.id != id).map .ok := by
  induction rows generalizing observations with
  | nil =>
    obtain rfl : observations = [] := by simpa using hrows.symm
    exact ⟨rfl, rfl⟩
  | cons row rows ih =>
    cases observations with
    | nil => cases hrows
    | cons o observations =>
      obtain ⟨hrow, hrest⟩ := List.cons.inj hrows
      obtain ⟨hany, hfilter⟩ := ih hrest fun row h => hholds row (List.mem_cons_of_mem _ h)
      have hid := hholds row List.mem_cons_self o hrow
      refine ⟨by rw [List.any_cons, List.any_cons, hid, hany], ?_⟩
      rw [List.filter_cons, List.filter_cons, hid, bne]
      by_cases h : (!(o.id == id)) = true
      · rw [if_pos h, if_pos h, List.map_cons, List.map_cons, hrow, hfilter]
      · rw [if_neg h, if_neg h, hfilter]

/-- A copy can be written beside a file and put in its place. -/
def Replaceable (d : Disk) (path : String) : Prop :=
  ∀ text, ∃ written renamed, d.write (Path.withExtension path "csv.tmp") text = .ok written ∧
    written.rename (Path.withExtension path "csv.tmp") path = .ok renamed

theorem delete_missing {d : Disk} {path text : String} (hread : d.read path = .ok text)
    (h : idColumn ∉ (Table.ofText text).header) (id : Nat) :
    delete d path id = (.error (unavailable path "missing nml_id column"), d) := by
  simp only [delete, hread, List.idxOf?_eq_none_iff.mpr h]
  rfl

theorem delete_executes {d : Disk} {path text : String} {t : Table} (hread : d.read path = .ok text)
    (ht : Table.ofText text = t) {column : Nat} (hcolumn : t.header.idxOf? idColumn = some column)
    (hfits : ∀ row ∈ t.rows, t.fits row = true) (hreplace : Replaceable d path) (id : Nat) : ∃ d',
      delete d path id = (.ok (t.rows.any (holds column id)), d') ∧
      d'.read path =
        .ok (Table.render (t.header :: t.rows.filter fun row => !holds column id row)) := by
  obtain ⟨_, _, _, hfile⟩ := Disk.read_eq_ok.mp hread
  obtain ⟨written, renamed, hwrite, hrename⟩ :=
    hreplace (Table.render (t.header :: t.rows.filter fun row => !holds column id row))
  have htake : t.rows.takeWhile t.fits = t.rows := List.takeWhile_eq_self_iff.mpr hfits
  have hdrop : t.rows.dropWhile t.fits = [] := List.dropWhile_eq_nil_iff.mpr hfits
  refine ⟨renamed, ?_, Disk.read_replaced hwrite hrename hfile⟩
  simp only [delete, hread, ht, hcolumn, copyWithout, htake, hdrop, hwrite, hrename]

/-- What remains of a file and what is told about it, had the entry been taken out of the
observations themselves. -/
def Deletes (d : Disk) (path : String) (id : Nat) (observations : List (StoredObservation α)) :
    Prop :=
  ∃ d', delete d path id = (.ok (observations.any fun o => o.id == id), d') ∧
    rows d' path = .ok ((observations.filter fun o => o.id != id).map .ok)

/-- Deletion agrees with reading. A file that is read to its end without a fault either names no
column for the entries, and then it holds none and the deletion says so, or it names the column
plainly and writes the entry in plain digits, and then just its observations are gone. -/
theorem delete_agrees (d : Disk) (path text : String) (id : Nat)
    (observations : List (StoredObservation α)) (hread : d.read path = .ok text)
    (hrows : rows d path = .ok (observations.map .ok)) :
    ((∀ name ∈ (Table.ofText text).header, Text.trim name ≠ idColumn) →
      observations = [] ∧
      delete d path id = (.error (unavailable path "missing nml_id column"), d)) ∧
    (idColumn ∈ (Table.ofText text).header → Table.Unmarked (Table.ofText text).header →
      SpelledPlainly (Table.ofText text) id → Replaceable d path →
        Deletes d path id observations) := by
  have hall : (Table.ofText text).rows.map (readRow path (Table.ofText text)) =
      observations.map .ok := by
    rw [rows_of_read hread] at hrows
    exact Except.ok.inj hrows
  constructor
  · intro hmissing
    have hcolumn : idColumn ∉ (Table.ofText text).header := fun hmem =>
      hmissing idColumn hmem trim_idColumn
    exact ⟨rows_eq_nil hmissing hall, delete_missing hread hcolumn id⟩
  · intro hcolumn hunmarked hplain hreplace
    obtain ⟨column, hsome⟩ := Option.isSome_iff_exists.mp (List.isSome_idxOf?.mpr hcolumn)
    have hfits : ∀ row ∈ (Table.ofText text).rows, (Table.ofText text).fits row = true := by
      intro row hrow
      have hmem := List.mem_map_of_mem (f := readRow (α := α) path (Table.ofText text)) hrow
      rw [hall] at hmem
      obtain ⟨o, _, ho⟩ := List.mem_map.mp hmem
      exact (readRow_eq_ok ho.symm).1
    obtain ⟨hany, hkept⟩ := deleted_rows hall fun row hrow o h =>
      holds_of_readRow h hsome hplain hrow
    obtain ⟨d', hdelete, hcopied⟩ := delete_executes hread rfl hsome hfits hreplace id
    rw [hany] at hdelete
    refine ⟨d', hdelete, ?_⟩
    have hcopyRows : ∀ r ∈ (Table.ofText text).rows.filter fun row => !holds column id row,
        r ≠ [] := fun r hr => Table.ofText_rows_ne_nil text r (List.mem_filter.mp hr).1
    rw [rows_of_read hcopied, readText,
      Table.ofText_render (List.ne_nil_of_mem hcolumn) hunmarked hcopyRows, ← hkept]
    exact congrArg Except.ok (List.map_congr_left fun _ _ => congrFun (readRow_header rfl) _)

def lone (text : String) : Disk := ⟨[], [(["a"], .file text)]⟩

section Lone

variable (text : String) {path : String} (h : path = "a" ∨ path = "a.csv.tmp")
include h

theorem lone_place : (lone text).place path = .ok [path] := by
  have hcheck : Disk.checkPath path = .ok () := by
    rcases h with rfl | rfl <;> exact Disk.checkPath_eq_ok (by decide) (by decide)
  have horigin : (lone text).origin path = [] := by
    unfold Disk.origin
    split <;> rfl
  unfold Disk.place
  rw [Path.components_eq, hcheck, horigin]
  rcases h with rfl | rfl <;> rfl

theorem lone_names : Disk.NamesFile path where
  point := by
    rw [Path.components_eq]
    rcases h with rfl | rfl <;> decide
  slash := by
    rw [Bool.eq_false_iff, ne_eq, Path.endsWith_iff]
    rcases h with rfl | rfl <;> decide

end Lone

theorem lone_read (text : String) : (lone text).read "a" = .ok text :=
  Disk.read_eq_ok.mpr ⟨["a"], lone_place text (.inl rfl), rfl, (lone_names (.inl rfl)).readable⟩

theorem lone_takesCopy (text : String) : (lone text).TakesCopy "a" ["a"] ["a.csv.tmp"] := by
  have hname : Path.withExtension "a" "csv.tmp" = "a.csv.tmp" := by
    unfold Path.withExtension
    simp only [Path.splitOn_slash]
    rfl
  have hfile : Disk.NamesFile "a" := lone_names (.inl rfl)
  have hcopy : Disk.NamesFile (Path.withExtension "a" "csv.tmp") := by
    rw [hname]
    exact lone_names (.inr rfl)
  refine ⟨lone_place text (.inl rfl), ?_, by decide, nofun, nofun, hfile, hfile.readable, hcopy,
    hcopy.readable⟩
  rw [hname]
  exact lone_place text (.inr rfl)

theorem lone_replaceable (text : String) : Replaceable (lone text) "a" := by
  intro copied
  obtain ⟨written, renamed, hwrite, hrename, _⟩ := (lone_takesCopy text).replace copied
  exact ⟨written, renamed, hwrite, hrename⟩

def starColumns : List String :=
  ["nml_id", "cat_ra", "cat_dc", "dt_utc", "temperature", "pressure", "humidity"]

def starCells (number : String) : List String := [number, "0", "0", "", "0", "0", "0"]

def star (id : Nat) : StoredObservation Float :=
  ⟨id, 0.0, 0.0, none, none, none, none, "", 0.0, 0.0, 0.0, none⟩

def starText (columns numbers : List String) : String :=
  Table.render (columns :: numbers.map starCells)

theorem ofText_starText {columns : List String} (hne : columns ≠ [])
    (h : Table.Unmarked columns) (numbers : List String) :
    Table.ofText (starText columns numbers) = ⟨columns, numbers.map starCells⟩ := by
  refine Table.ofText_render hne h ?_
  intro r hr
  obtain ⟨number, -, rfl⟩ := List.mem_map.mp hr
  exact List.cons_ne_nil _ _

theorem delete_agrees_stars :
    delete (lone "") "a" 7 = (.error (unavailable "a" "missing nml_id column"), lone "") ∧
    Deletes (lone (starText starColumns ["7", "8", "7"])) "a" 7 [star 7, star 8, star 7] := by
  have hnone : rows (lone "") "a" = .ok (([] : List (StoredObservation Float)).map .ok) :=
    rows_of_read (lone_read "")
  have htable : Table.ofText (starText starColumns ["7", "8", "7"]) =
      ⟨starColumns, ["7", "8", "7"].map starCells⟩ := ofText_starText (by decide) (by decide) _
  have hread := lone_read (starText starColumns ["7", "8", "7"])
  have hrows : rows (lone (starText starColumns ["7", "8", "7"])) "a" =
      .ok ([star 7, star 8, star 7].map .ok) := by
    rw [rows_of_read hread, readText, htable]
    rfl
  refine ⟨((delete_agrees _ _ _ 7 _ (lone_read "") hnone).1 (by decide)).2,
    (delete_agrees _ _ _ 7 _ hread hrows).2 ?_ ?_ ?_ (lone_replaceable _)⟩
  · rw [htable]
    decide
  · rw [htable]
    decide
  · rw [htable]
    decide

def Disagrees (text : String) (id : Nat) (observations : List (StoredObservation Float)) : Prop :=
  rows (lone text) "a" = .ok (observations.map .ok) ∧ Replaceable (lone text) "a" ∧
    ¬ Deletes (lone text) "a" id observations

theorem disagrees_of_missing {text : String} {observations : List (StoredObservation Float)}
    (hrows : readText "a" text = observations.map .ok)
    (hmissing : idColumn ∉ (Table.ofText text).header) (id : Nat) :
    Disagrees text id observations := by
  refine ⟨?_, lone_replaceable text, ?_⟩
  · rw [rows_of_read (lone_read text), hrows]
  · rintro ⟨d', hdelete, -⟩
    rw [delete_missing (lone_read text) hmissing] at hdelete
    cases congrArg Prod.fst hdelete

/-- A column whose name begins with a mark of the byte order. Where it comes first it loses the
mark, and then it bears the name of another column. -/
def markedColumns : List String := "\uFEFFcat_ra" :: starColumns

theorem disagrees_marked :
    Disagrees ("\uFEFF" ++ Table.render [markedColumns, "" :: starCells "7"]) 8 [star 7] := by
  have hread := lone_read ("\uFEFF" ++ Table.render [markedColumns, "" :: starCells "7"])
  have htable : Table.ofText ("\uFEFF" ++ Table.render [markedColumns, "" :: starCells "7"]) =
      ⟨markedColumns, ["" :: starCells "7"]⟩ := Table.ofText_mark (by decide) (by decide)
  refine ⟨?_, lone_replaceable _, ?_⟩
  · rw [rows_of_read hread, readText, htable]
    rfl
  · rintro ⟨d', hdelete, hrows⟩
    have hcolumn : markedColumns.idxOf? idColumn = some 1 := rfl
    obtain ⟨d'', hexecutes, hcopied⟩ :=
      delete_executes hread htable hcolumn (by decide) (lone_replaceable _) 8
    rw [hexecutes] at hdelete
    obtain rfl : d'' = d' := congrArg Prod.snd hdelete
    have hcopy : Table.render [markedColumns, "" :: starCells "7"] =
        "\uFEFF" ++ Table.render ["cat_ra" :: starColumns, "" :: starCells "7"] := by
      decide
    have hkept : (["" :: starCells "7"].filter fun row => !holds 1 8 row) =
        ["" :: starCells "7"] := by
      decide
    rw [rows_of_read hcopied, readText, hkept, hcopy,
      Table.ofText_mark (by decide) (by decide)] at hrows
    cases hrows

/-- No column at all, another spelling of the entry, a blank before the name of the column, and a
second mark of the byte order: in each file a deletion tells or leaves something else than reading
does. -/
theorem delete_disagrees : Disagrees "" 7 [] ∧ Disagrees (starText starColumns ["007"]) 7 [star 7] ∧
    Disagrees (starText (" nml_id" :: starColumns.tail) ["7"]) 7 [star 7] ∧
    Disagrees ("\uFEFF" ++ Table.render [markedColumns, "" :: starCells "7"]) 8 [star 7] := by
  refine ⟨disagrees_of_missing rfl (by decide) 7, ?_, ?_, disagrees_marked⟩
  · have hread := lone_read (starText starColumns ["007"])
    have htable : Table.ofText (starText starColumns ["007"]) = ⟨starColumns, [starCells "007"]⟩ :=
      ofText_starText (by decide) (by decide) _
    refine ⟨?_, lone_replaceable _, ?_⟩
    · rw [rows_of_read hread, readText, htable]
      rfl
    · rintro ⟨d', hdelete, -⟩
      have hcolumn : starColumns.idxOf? idColumn = some 0 := rfl
      obtain ⟨d'', hexecutes, -⟩ :=
        delete_executes hread htable hcolumn (by decide) (lone_replaceable _) 7
      rw [hexecutes] at hdelete
      have htold : (Except.ok false : Except PointingError Bool) = .ok true :=
        congrArg Prod.fst hdelete
      cases htold
  · have htable : Table.ofText (starText (" nml_id" :: starColumns.tail) ["7"]) =
        ⟨" nml_id" :: starColumns.tail, [starCells "7"]⟩ :=
      ofText_starText (by decide) (by decide) _
    refine disagrees_of_missing ?_ ?_ 7
    · rw [readText, htable]
      rfl
    · rw [htable]
      decide

end TelescopePointing.ObservationFile
