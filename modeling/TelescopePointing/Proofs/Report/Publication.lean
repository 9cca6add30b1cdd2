import TelescopePointing.Proofs.Report.Artifact
import TelescopePointing.Proofs.Report.Contents

namespace TelescopePointing

namespace TableSink

def wrote (s : TableSink) (name : String) (disk : Disk) : TableSink :=
  { s with disk := disk, written := s.written ++ [Path.join s.folder name] }

theorem write_cons {s : TableSink} {name : String} {rows : List (List String)} {disk : Disk}
    (h : s.disk.write (Path.join s.folder name) (Table.render rows) = .ok disk)
    (tables : List (String × List (List String))) :
    (s.write ((name, rows) :: tables)).result = ((s.wrote name disk).write tables).result ∧
      (s.write ((name, rows) :: tables)).sink = ((s.wrote name disk).write tables).sink := by
  simp only [write, h]
  exact ⟨rfl, rfl⟩

structure Writes (s : TableSink) (names : List String) (s' : TableSink) : Prop where
  folder : s'.folder = s.folder
  written : s'.written = s.written ++ names.map (Path.join s.folder)
  changes : s.disk.ChangesOnly (names.map (Path.join s.folder)) s'.disk

namespace Writes

variable {s s' s'' : TableSink} {names more : List String}

theorem refl (s : TableSink) : s.Writes [] s := ⟨rfl, (List.append_nil _).symm, .refl [] _⟩

theorem trans (h : s.Writes names s') (h' : s'.Writes more s'') : s.Writes (names ++ more) s'' where
  folder := h'.folder.trans h.folder
  written := by rw [h'.written, h.written, h.folder, List.map_append, List.append_assoc]
  changes := by
    have hchanges := h'.changes
    rw [h.folder] at hchanges
    rw [List.map_append]
    exact (h.changes.mono (List.subset_append_left _ _)).trans
      (hchanges.mono (List.subset_append_right _ _))

theorem of_write {name text : String} {disk : Disk}
    (h : s.disk.write (Path.join s.folder name) text = .ok disk) :
    s.Writes [name] (s.wrote name disk) :=
  ⟨rfl, rfl, .write h⟩

theorem read (h : s.Writes names s') (hnames : ∀ n ∈ names, Path.NamesOneFile n)
    {name text : String} (hname : Path.NamesOneFile name) (hnew : name ∉ names)
    (hread : s.disk.read (Path.join s.folder name) = .ok text) :
    s'.disk.read (Path.join s'.folder name) = .ok text := by
  rw [h.folder]
  refine h.changes.read (fun p hp path hpath => ?_) hread
  obtain ⟨n, hn, rfl⟩ := List.mem_map.mp hpath
  exact Disk.place_join_ne hname (hnames n hn) (fun heq => hnew (heq ▸ hn)) hp

end Writes

def Holds (s : TableSink) (tables : List (String × List (List String))) : Prop :=
  ∀ t ∈ tables, s.disk.read (Path.join s.folder t.1) = .ok (Table.render t.2)

theorem Holds.mono {s s' : TableSink} {names : List String}
    {tables : List (String × List (List String))} (h : s.Holds tables) (hwrites : s.Writes names s')
    (hnames : ∀ n ∈ names, Path.NamesOneFile n)
    (htables : ∀ n ∈ tables.map Prod.fst, Path.NamesOneFile n)
    (hdisjoint : List.Disjoint (tables.map Prod.fst) names) : s'.Holds tables := by
  intro t ht
  have hmem : t.1 ∈ tables.map Prod.fst := List.mem_map_of_mem ht
  exact hwrites.read hnames (htables _ hmem) (fun hn => hdisjoint hmem hn) (h t ht)

/-- Tables are written up to the first one that cannot be, and stay as they were written. -/
theorem write_writes {tables : List (String × List (List String))}
    (hnames : ∀ n ∈ tables.map Prod.fst, Path.NamesOneFile n) (hnodup : (tables.map Prod.fst).Nodup)
    (s : TableSink) :
    ∃ done left, tables = done ++ left ∧ s.Writes (done.map Prod.fst) (s.write tables).sink ∧
      (s.write tables).sink.Holds done ∧ ((s.write tables).result = .ok () → left = []) := by
  induction tables generalizing s with
  | nil => exact ⟨[], [], rfl, .refl s, nofun, fun _ => rfl⟩
  | cons t tables ih =>
    obtain ⟨name, rows⟩ := t
    rw [List.map_cons, List.forall_mem_cons] at hnames
    rw [List.map_cons, List.nodup_cons] at hnodup
    cases hwrite : s.disk.write (Path.join s.folder name) (Table.render rows) with
    | error fault =>
      refine ⟨[], (name, rows) :: tables, rfl, ?_⟩
      simp only [write, hwrite]
      exact ⟨.refl s, nofun, nofun⟩
    | ok disk =>
      obtain ⟨done, left, rfl, hwrites, hholds, hleft⟩ := ih hnames.2 hnodup.2 (s.wrote name disk)
      have hsub : done.map Prod.fst ⊆ (done ++ left).map Prod.fst := by
        rw [List.map_append]
        exact List.subset_append_left _ _
      rw [(write_cons hwrite _).1, (write_cons hwrite _).2]
      refine ⟨(name, rows) :: done, left, rfl, (Writes.of_write hwrite).trans hwrites, ?_, hleft⟩
      refine List.forall_mem_cons.mpr ⟨?_, hholds⟩
      exact hwrites.read (fun n hn => hnames.2 n (hsub hn)) hnames.1 (fun hn => hnodup.1 (hsub hn))
        (Disk.read_of_write hwrite)

variable {α : Type}

def paths (s : TableSink) (r : Report α) : List String := r.tableNames.map (Path.join s.folder)

theorem flatMap_paths (s : TableSink) (reports : List (Report α)) :
    reports.flatMap s.paths = (reports.flatMap Report.tableNames).map (Path.join s.folder) :=
  List.map_flatMap.symm

variable [Scalar α] [NumberText α]

theorem publish_writes {r : Report α} (htag : '/' ∉ r.tag.toList) (s : TableSink) :
    ∃ done left, r.tables = done ++ left ∧ s.Writes (done.map Prod.fst) (publish r s).sink ∧
      (publish r s).sink.Holds done ∧ ((publish r s).result = .ok () → left = []) := by
  unfold publish
  cases hfolder : s.disk.createFolder s.folder with
  | error fault => exact ⟨[], r.tables, rfl, .refl s, nofun, nofun⟩
  | ok disk =>
    have hmade : s.Writes [] { s with disk := disk } :=
      ⟨rfl, (List.append_nil _).symm, .createFolder hfolder⟩
    have hnames : ∀ n ∈ r.tables.map Prod.fst, Path.NamesOneFile n := fun _ hn =>
      Report.namesOneFile_of_mem htag hn
    obtain ⟨done, left, htables, hwrites, hholds, hleft⟩ :=
      write_writes hnames r.nodup_tableNames { s with disk := disk }
    refine ⟨done, left, htables, ?_⟩
    dsimp only
    split
    next e he => exact ⟨hmade.trans hwrites, hholds, hleft⟩
    next he => exact ⟨hmade.trans hwrites, hholds, fun _ => hleft he⟩

inductive Publishes : TableSink → List (Report α) → TableSink → Prop
  | done (s : TableSink) : Publishes s [] s
  | next {s s' : TableSink} {r : Report α} {reports : List (Report α)}
      (h : (publish r s).result = .ok ()) (hrest : Publishes (publish r s).sink reports s') :
    Publishes s (r :: reports) s'

theorem Publishes.writes {s s' : TableSink} {reports : List (Report α)}
    (h : Publishes s reports s') (htags : ∀ r ∈ reports, '/' ∉ r.tag.toList)
    (hkeys : (reports.map Report.key).Nodup) :
    s.Writes (reports.flatMap Report.tableNames) s' ∧ ∀ r ∈ reports, s'.Holds r.tables := by
  induction h with
  | done s => exact ⟨.refl s, nofun⟩
  | @next s s' r reports hok hrest ih =>
    rw [List.forall_mem_cons] at htags
    have hnames := Report.nodup_flatMap_tableNames hkeys
    rw [List.flatMap_cons, List.nodup_append'] at hnames
    rw [List.map_cons, List.nodup_cons] at hkeys
    obtain ⟨hwrites, hholds⟩ := ih htags.2 hkeys.2
    obtain ⟨done, left, htables, hfirst, hheld, hleft⟩ := publish_writes htags.1 s
    obtain rfl : r.tables = done := by rw [htables, hleft hok, List.append_nil]
    refine ⟨hfirst.trans hwrites, List.forall_mem_cons.mpr ⟨?_, hholds⟩⟩
    refine hheld.mono hwrites (fun n hn => ?_)
      (fun _ hn => Report.namesOneFile_of_mem htags.1 hn) hnames.2.2
    obtain ⟨r', hr', hn⟩ := List.mem_flatMap.mp hn
    exact Report.namesOneFile_of_mem (htags.2 r' hr') hn

structure HasRoom (s : TableSink) (names : List String) : Prop where
  folder : s.disk.HasFolder s.folder
  files : ∀ n ∈ names, s.disk.TakesFile (Path.join s.folder n)

omit [Scalar α] [NumberText α] in
theorem HasRoom.mono {s : TableSink} {names fewer : List String} (h : s.HasRoom names)
    (hsub : fewer ⊆ names) : s.HasRoom fewer :=
  ⟨h.folder, fun n hn => h.files n (hsub hn)⟩

omit [Scalar α] [NumberText α] in
theorem HasRoom.write {s : TableSink} {names : List String}
    {tables : List (String × List (List String))} (h : s.HasRoom names)
    (hsub : tables.map Prod.fst ⊆ names) :
    (s.write tables).result = .ok () ∧ s.Writes (tables.map Prod.fst) (s.write tables).sink ∧
      (s.write tables).sink.HasRoom names := by
  induction tables generalizing s with
  | nil => exact ⟨rfl, .refl s, h⟩
  | cons t tables ih =>
    obtain ⟨name, rows⟩ := t
    rw [List.map_cons, List.cons_subset] at hsub
    obtain ⟨disk, hwrite⟩ := (h.files name hsub.1).write (Table.render rows)
    have hwrites := Writes.of_write hwrite
    have hroom : (s.wrote name disk).HasRoom names :=
      ⟨h.folder.mono hwrites.changes.toKeepsFolders, fun n hn => (h.files n hn).of_write hwrite⟩
    obtain ⟨hok, hrest, hafter⟩ := ih hroom hsub.2
    rw [(write_cons hwrite _).1, (write_cons hwrite _).2]
    exact ⟨hok, hwrites.trans hrest, hafter⟩

theorem HasRoom.publish {s : TableSink} {names : List String} {r : Report α}
    (h : s.HasRoom names) (hsub : r.tableNames ⊆ names) :
    (publish r s).result = .ok () ∧ s.Writes r.tableNames (publish r s).sink ∧
      (publish r s).sink.HasRoom names := by
  obtain ⟨hok, hafter⟩ := h.write (r.tables_names ▸ hsub)
  simp only [TableSink.publish, h.folder.createFolder, hok]
  exact ⟨trivial, hafter⟩

theorem HasRoom.publishes {s : TableSink} {names : List String} {reports : List (Report α)}
    (h : s.HasRoom names) (hsub : ∀ r ∈ reports, r.tableNames ⊆ names) :
    ∃ s', Publishes s reports s' := by
  induction reports generalizing s with
  | nil => exact ⟨s, .done s⟩
  | cons r reports ih =>
    rw [List.forall_mem_cons] at hsub
    obtain ⟨hok, -, hroom⟩ := h.publish hsub.1
    obtain ⟨s', hrest⟩ := ih hroom hsub.2
    exact ⟨s', .next hok hrest⟩

/-- A further report leaves the tables of a report with another frame or tag as they are. -/
theorem Holds.publish {s : TableSink} {r r' : Report α} (h : s.Holds r.tables)
    (htag : '/' ∉ r.tag.toList) (htag' : '/' ∉ r'.tag.toList) (hkey : r.key ≠ r'.key) :
    (publish r' s).sink.Holds r.tables := by
  obtain ⟨done, left, htables, hwrites, -⟩ := publish_writes htag' s
  have hsub : done.map Prod.fst ⊆ r'.tableNames := by
    rw [← r'.tables_names, htables, List.map_append]
    exact List.subset_append_left _ _
  refine h.mono hwrites (fun n hn => Report.namesOneFile_of_mem htag' (hsub hn))
    (fun n hn => Report.namesOneFile_of_mem htag hn) fun n hn hn' => ?_
  exact hkey (Report.key_eq_of_mem_tableNames hn (hsub hn'))

theorem Holds.place {s : TableSink} {r : Report α} (h : s.Holds r.tables) {name : String}
    (hname : name ∈ r.tableNames) : ∃ p, s.disk.place (Path.join s.folder name) = .ok p := by
  rw [← r.tables_names] at hname
  obtain ⟨t, ht, rfl⟩ := List.mem_map.mp hname
  obtain ⟨p, hp, -⟩ := Disk.read_eq_ok.mp (h t ht)
  exact ⟨p, hp⟩

def Keeps (s : TableSink) (r : Report α) : Prop :=
  ∃ residual projection parameters : String,
    (s.paths r).map s.disk.read = [.ok residual, .ok projection, .ok parameters] ∧
      r.Tabulated (Table.ofText residual) (Table.ofText projection) (Table.ofText parameters)

theorem Holds.keeps {s : TableSink} {r : Report α} (h : s.Holds r.tables) : s.Keeps r := by
  refine ⟨_, _, _, ?_, r.tabulated⟩
  simp only [Holds, Report.tables, List.forall_mem_cons] at h
  obtain ⟨hresidual, hprojection, hparameters, -⟩ := h
  change [s.disk.read _, s.disk.read _, s.disk.read _] = _
  rw [hresidual, hprojection, hparameters]

/-- What a sink has when it has taken some reports: new files, each in its own place, with all of
the tables. -/
structure Collects (s : TableSink) (reports : List (Report α)) (s' : TableSink) : Prop where
  folder : s'.folder = s.folder
  written : s'.written = s.written ++ reports.flatMap s.paths
  paths : (reports.flatMap s.paths).Nodup
  places : (reports.flatMap s.paths).Pairwise fun path other =>
    s'.disk.place path ≠ s'.disk.place other
  tables : ∀ r ∈ reports, s'.Keeps r

theorem Publishes.collects {s s' : TableSink} {reports : List (Report α)}
    (h : Publishes s reports s') (htags : ∀ r ∈ reports, '/' ∉ r.tag.toList)
    (hkeys : (reports.map Report.key).Nodup) : s.Collects reports s' := by
  obtain ⟨hwrites, hholds⟩ := h.writes htags hkeys
  have hplaces : (reports.flatMap s.paths).Pairwise fun path other =>
      s'.disk.place path ≠ s'.disk.place other := by
    rw [flatMap_paths, List.pairwise_map, ← hwrites.folder]
    have hnames := Report.nodup_flatMap_tableNames hkeys
    refine hnames.imp_of_mem fun {name other} hname hother hne => ?_
    obtain ⟨r, hr, hname⟩ := List.mem_flatMap.mp hname
    obtain ⟨r', hr', hother⟩ := List.mem_flatMap.mp hother
    obtain ⟨p, hp⟩ := (hholds r hr).place hname
    rw [hp]
    exact (Disk.place_join_ne (Report.namesOneFile_of_mem (htags r hr) hname)
      (Report.namesOneFile_of_mem (htags r' hr') hother) hne hp).symm
  exact
    { folder := hwrites.folder
      written := by rw [hwrites.written, flatMap_paths]
      paths := hplaces.imp fun hne heq => hne (congrArg _ heq)
      places := hplaces
      tables := fun r hr => (hholds r hr).keeps }

structure Preserves (s : TableSink) (reports : List (Report α)) (s' : TableSink) : Prop where
  written : s.written <+: s'.written
  files : ∀ path ∈ reports.flatMap s.paths, s'.disk.read path = s.disk.read path
  tables : ∀ r ∈ reports, s'.Keeps r

/-- What a sink has taken is preserved whether or not it takes a further report. -/
theorem Publishes.preserves {s s' : TableSink} {reports : List (Report α)}
    (h : Publishes s reports s') (htags : ∀ r ∈ reports, '/' ∉ r.tag.toList)
    (hkeys : (reports.map Report.key).Nodup) {r : Report α} (htag : '/' ∉ r.tag.toList)
    (hkey : r.key ∉ reports.map Report.key) : s'.Preserves reports (publish r s').sink := by
  obtain ⟨done, left, -, hwrites, -⟩ := publish_writes htag s'
  have hholds := (h.writes htags hkeys).2
  have hstill : ∀ r' ∈ reports, (publish r s').sink.Holds r'.tables := fun r' hr' =>
    (hholds r' hr').publish (htags r' hr') htag fun heq => hkey (heq ▸ List.mem_map_of_mem hr')
  constructor
  case written =>
    rw [hwrites.written]
    exact List.prefix_append _ _
  case files =>
    rw [flatMap_paths, List.forall_mem_map]
    intro name hname
    obtain ⟨r', hr', hname⟩ := List.mem_flatMap.mp hname
    rw [← r'.tables_names] at hname
    obtain ⟨t, ht, rfl⟩ := List.mem_map.mp hname
    rw [hholds r' hr' t ht, ← hwrites.folder, hstill r' hr' t ht]
  case tables => exact fun r' hr' => (hstill r' hr').keeps

end TableSink

end TelescopePointing
