import TelescopePointing.Proofs.Disk.Blank
import TelescopePointing.Report.Tables

namespace TelescopePointing.TableSink

def blank (s : TableSink) : TableSink := { s with disk := s.disk.blank }

theorem blank_eq_iff (s s' : TableSink) : s'.blank = s.blank ↔
    s'.folder = s.folder ∧ s'.disk.blank = s.disk.blank ∧ s'.written = s.written ∧
      s'.log = s.log := by
  simp only [blank, TableSink.mk.injEq]

theorem write_blank {tables tables' : List (String × List (List String))}
    (hnames : tables'.map Prod.fst = tables.map Prod.fst) {s s' : TableSink}
    (h : s'.blank = s.blank) :
    (s'.write tables').result = (s.write tables).result ∧
      (s'.write tables').sink.blank = (s.write tables).sink.blank := by
  induction tables generalizing tables' s s' with
  | nil =>
    obtain rfl := List.map_eq_nil_iff.mp hnames
    exact ⟨rfl, h⟩
  | cons e tables ih =>
    obtain ⟨e', tables', rfl, hname, hrest⟩ := List.map_eq_cons_iff.mp hnames
    obtain ⟨name, rows⟩ := e
    obtain ⟨name', rows'⟩ := e'
    obtain rfl : name' = name := hname
    obtain ⟨hfolder, hdisk, hwritten, hlog⟩ := (blank_eq_iff s s').mp h
    have hwrite := Disk.write_alike hdisk (Path.join s.folder name') (Table.render rows)
      (Table.render rows')
    simp only [write, hfolder]
    generalize s.disk.write _ _ = x at hwrite ⊢
    generalize s'.disk.write _ _ = y at hwrite ⊢
    cases hwrite with
    | error fault => exact ⟨rfl, h⟩
    | ok hblank =>
      exact ih hrest ((blank_eq_iff _ _).mpr ⟨rfl, hblank, by rw [hwritten], hlog⟩)

variable {α : Type} [Scalar α] [NumberText α]

/-- A folder takes the tables of a report or not whatever is in them. -/
theorem publish_blank {r r' : Report α} (htag : r'.tag = r.tag) (hframe : r'.frame = r.frame)
    {s s' : TableSink} (h : s'.blank = s.blank) :
    (publish r' s').result = (publish r s).result ∧
      (publish r' s').sink.blank = (publish r s).sink.blank := by
  obtain ⟨hfolder, hdisk, hwritten, hlog⟩ := (blank_eq_iff s s').mp h
  have hnames : r'.tables.map Prod.fst = r.tables.map Prod.fst := by
    simp only [Report.tables, htag, hframe, List.map_cons, List.map_nil]
  have hfolders := Disk.createFolder_alike hdisk s.folder
  unfold publish
  rw [hfolder]
  generalize s.disk.createFolder _ = x at hfolders ⊢
  generalize s'.disk.createFolder _ = y at hfolders ⊢
  cases hfolders with
  | error fault => exact ⟨rfl, h⟩
  | @ok disk disk' hblank =>
    have hmade : { s' with disk := disk' }.blank = { s with disk := disk }.blank :=
      (blank_eq_iff _ _).mpr ⟨hfolder, hblank, hwritten, hlog⟩
    obtain ⟨hresult, hsink⟩ := write_blank hnames hmade
    rw [hfolder] at hresult hsink
    dsimp only
    generalize TableSink.write _ r'.tables = step' at hresult hsink ⊢
    generalize TableSink.write _ r.tables = step at hresult hsink ⊢
    rw [hresult]
    cases step.result with
    | error e => exact ⟨hresult, hsink⟩
    | ok _ => exact ⟨rfl, hsink⟩

end TelescopePointing.TableSink
