import TelescopePointing.Proofs.Disk.Path
import TelescopePointing.Proofs.Disk.Writing

namespace TelescopePointing.Disk

variable {d d' : Disk} {p q : List String} {path : String}

/-- What is on a disk stands in a folder, and relative paths start in one. -/
structure WellFormed (d : Disk) : Prop where
  home : d.node? d.home = some .folder
  parent : ∀ q n, d.node? q = some n → d.node? q.dropLast = some .folder

theorem enter_folder {here names : List String} (hhere : d.node? here = some .folder)
    (h : d.enter here names = .ok p) : d.node? p = some .folder := by
  induction names generalizing here with
  | nil =>
    obtain rfl : here = p := Except.ok.inj h
    exact hhere
  | cons name names ih =>
    rw [enter_cons] at h
    obtain ⟨next, _, h⟩ := bind_eq_ok h
    cases hnode : d.node? next with
    | none => simp [hnode] at h
    | some n =>
      cases n with
      | file text => simp [hnode] at h
      | folder =>
        rw [hnode] at h
        exact ih hnode h

theorem WellFormed.origin (h : d.WellFormed) (path : String) :
    d.node? (d.origin path) = some .folder := by
  unfold Disk.origin
  split
  · rfl
  · exact h.home

theorem place_eq_ok (h : d.place path = .ok p) : path ≠ "" ∧ ∃ here,
    d.enter (d.origin path) (Path.dropPoints (Path.components path)).dropLast = .ok here ∧
      ((Path.dropPoints (Path.components path)).getLast? = none ∧ p = here ∨
        ∃ name, (Path.dropPoints (Path.components path)).getLast? = some name ∧
          child here name = .ok p) := by
  unfold Disk.place at h
  obtain ⟨_, _, h⟩ := bind_eq_ok h
  split at h
  · cases h
  next hne =>
    obtain ⟨here, hway, h⟩ := bind_eq_ok h
    refine ⟨by simpa using hne, here, hway, ?_⟩
    cases hlast : (Path.dropPoints (Path.components path)).getLast? with
    | none =>
      rw [hlast] at h
      exact .inl ⟨rfl, (Except.ok.inj h).symm⟩
    | some name =>
      rw [hlast] at h
      exact .inr ⟨name, rfl, h⟩

theorem child_eq_ok {here : List String} {name : String} (h : child here name = .ok p)
    (hpoint : name ≠ ".") (hpoints : name ≠ "..") : p = here ++ [name] := by
  unfold child at h
  rw [if_neg (by simpa using hpoint), if_neg (by simpa using hpoints)] at h
  split at h
  · cases h
  · exact (Except.ok.inj h).symm

theorem place_getLast? (h : d.place path = .ok p) (hname : Path.HasOwnName path) :
    p.getLast? = some (String.ofList (Path.lastName path)) := by
  have hne : ∀ other : String, Path.lastName path ≠ other.toList →
      String.ofList (Path.lastName path) ≠ other := by
    rintro _ hother rfl
    exact hother String.toList_ofList.symm
  have hlast := Path.components_getLast? hname.full
  have hpoint := hne "." hname.point
  rw [← Path.dropPoints_of_getLast? hlast hpoint] at hlast
  obtain ⟨_, here, _, ⟨hnone, _⟩ | ⟨name, hsome, hchild⟩⟩ := place_eq_ok h
  · rw [hlast] at hnone
    cases hnone
  · rw [hlast] at hsome
    obtain rfl := Option.some.inj hsome
    rw [child_eq_ok hchild hpoint (hne ".." hname.points), List.getLast?_concat]

theorem place_join_getLast? {folder stem ending : String}
    (h : d.place (Path.join folder (stem ++ ending)) = .ok p) (hslash : '/' ∉ ending.toList)
    (hlong : 3 ≤ ending.length) :
    ∃ name, p.getLast? = some (String.ofList (name ++ ending.toList)) := by
  obtain ⟨start, hstart⟩ := Path.join_eq_append folder (stem ++ ending)
  rw [hstart, ← String.append_assoc] at h
  rw [place_getLast? h (.append _ hslash hlong), Path.lastName_append _ hslash]
  exact ⟨_, rfl⟩

/-- Without a name of its own a path leads to a folder. -/
theorem WellFormed.hasOwnName (hd : d.WellFormed) {text : String} (hread : d.read path = .ok text) :
    Path.HasOwnName path := by
  obtain ⟨p, hp, hnode, hfile⟩ := read_eq_ok.mp hread
  obtain ⟨hne, here, hway, hplace⟩ := place_eq_ok hp
  obtain ⟨before, hpath, hslash, hbefore⟩ := Path.exists_before_lastName path
  have hhere : d.node? here = some .folder := enter_folder (hd.origin path) hway
  have hnot : ¬ (path.endsWith "/" = true ∨ path.endsWith "/." = true) := by
    rw [← Bool.or_eq_true]
    exact Bool.eq_false_iff.mp hfile
  rw [Path.endsWith_iff, Path.endsWith_iff, hpath] at hnot
  refine ⟨fun hname => ?_, fun hname => ?_, fun hname => ?_⟩
  -- Nothing behind a slash is not read, and neither is a point behind one.
  · rw [hname, List.append_nil] at hpath hnot
    rcases hbefore with rfl | ⟨start, rfl⟩
    · exact hne (String.toList_eq_nil_iff.mp hpath)
    · exact hnot (.inl ⟨start, rfl⟩)
  · rw [hname] at hpath hnot
    rcases hbefore with rfl | ⟨start, rfl⟩
    · have hpoint : path = "." := String.toList_inj.mp hpath
      have hnames : Path.dropPoints (Path.components ".") = [] := by
        rw [Path.components_eq]
        decide
      rw [hpoint, hnames] at hplace
      rcases hplace with ⟨_, rfl⟩ | ⟨name, hnone, _⟩
      · rw [hhere] at hnode
        cases hnode
      · cases hnone
    · exact hnot (.inr ⟨start, by simp⟩)
  -- Two points lead to the folder above the last one on the way.
  · have hfull : Path.lastName path ≠ [] := by simp [hname]
    have hlast := Path.components_getLast? hfull
    rw [hname] at hlast
    have hpoints : String.ofList ['.', '.'] ≠ "." := by decide
    rw [Path.dropPoints_of_getLast? hlast hpoints, hlast] at hplace
    rcases hplace with ⟨hnone, _⟩ | ⟨name, hlast', hchild⟩
    · cases hnone
    · obtain rfl := Option.some.inj hlast'
      obtain rfl : here.dropLast = p := Except.ok.inj hchild
      rw [hd.parent here _ hhere] at hnode
      cases hnode

/-- A copy never takes the place of the file that it is a copy of. -/
theorem WellFormed.place_copy_ne (hd : d.WellFormed) {text : String}
    (hread : d.read path = .ok text) (hp : d.place path = .ok p)
    (hq : d.place (Path.withExtension path "csv.tmp") = .ok q) : q ≠ p := by
  have hname := hd.hasOwnName hread
  have hplast := place_getLast? hp hname
  have hqlast := place_getLast? hq (hname.withExtension (by decide) (by decide))
  rw [Path.lastName_withExtension (by decide) hname.full hname.points,
    String.ofList_toList] at hqlast
  rintro rfl
  rw [hplast, Option.some.injEq] at hqlast
  exact Path.stem_append_ne _ (by decide) hqlast.symm

theorem WellFormed.parent_of_place (hd : d.WellFormed) (hp : d.place path = .ok p)
    (hn : d.node? p ≠ some .folder) : d.node? p.dropLast = some .folder := by
  obtain ⟨_, here, hway, hplace⟩ := place_eq_ok hp
  have hhere : d.node? here = some .folder := enter_folder (hd.origin path) hway
  rcases hplace with ⟨_, rfl⟩ | ⟨name, _, hchild⟩
  · exact absurd hhere hn
  · unfold child at hchild
    split at hchild
    · cases hchild
      exact absurd hhere hn
    · split at hchild
      · cases hchild
        exact absurd (hd.parent here _ hhere) hn
      · split at hchild
        · cases hchild
        · cases hchild
          rwa [List.dropLast_concat]

theorem WellFormed.write (hd : d.WellFormed) {text : String} (h : d.write path text = .ok d') :
    d'.WellFormed := by
  obtain ⟨p, hp, hn, _, rfl⟩ := write_eq_ok_iff.mp h
  have hkeeps : d.KeepsFolders (d.put p (.file text)) := .put hn _
  refine ⟨hkeeps.folder _ hd.home, fun q n hq => hkeeps.folder _ ?_⟩
  by_cases hqp : q = p
  · rw [hqp]
    exact hd.parent_of_place hp hn
  · rw [node?_put_of_ne d _ hqp] at hq
    exact hd.parent q n hq

theorem NamesFile.readable (h : NamesFile path) : Path.namesFolder path = false := by
  rw [Path.namesFolder, h.slash, Bool.false_or, Bool.eq_false_iff, ne_eq, Path.endsWith_iff]
  rintro ⟨start, hpath⟩
  have hname : Path.lastName (String.ofList ((start ++ ['/']) ++ ['.'])) = ['.'] :=
    Path.lastName_ofList (.inr ⟨start, rfl⟩) (by decide)
  have hlist : String.ofList ((start ++ ['/']) ++ ['.']) = path := by
    rw [← String.toList_inj, ← hpath, String.toList_ofList, List.append_assoc]
    rfl
  rw [hlist] at hname
  have hlast := Path.components_getLast? (hname ▸ List.cons_ne_nil _ _)
  have hpoint := h.point
  rw [hlast, hname] at hpoint
  exact absurd hpoint (by decide)

theorem read_of_write {text : String} (h : d.write path text = .ok d') :
    d'.read path = .ok text := by
  obtain ⟨p, hp, hn, hnames, rfl⟩ := write_eq_ok_iff.mp h
  refine read_eq_ok.mpr ⟨p, (KeepsFolders.put hn _).place hp, ?_, hnames.readable⟩
  exact node?_put_self d (ne_nil_of_node? hn) _

theorem node?_drop_self (d : Disk) (hp : p ≠ []) : (d.drop p).node? p = none := by
  have hlookup : (d.nodes.filter fun e => e.1 != p).lookup p = none := by
    rw [List.lookup_eq_none_iff]
    intro e he
    have hne : e.1 ≠ p := by simpa using (List.mem_filter.mp he).2
    simpa using hne.symm
  simp [node?, drop, hp, hlookup]

theorem node?_drop_of_ne (d : Disk) (h : q ≠ p) : (d.drop p).node? q = d.node? q := by
  simp only [node?, drop, lookup_filter_ne _ h]

theorem KeepsFolders.drop (hp : d.node? p ≠ some .folder) : d.KeepsFolders (d.drop p) where
  home := rfl
  folder q hq := by
    have hne : q ≠ p := by
      rintro rfl
      exact hp hq
    rw [node?_drop_of_ne d hne, hq]

theorem remove_eq_ok {text : String} (hp : d.place path = .ok p)
    (hn : d.node? p = some (.file text)) : d.remove path = .ok (d.drop p) := by
  simp only [remove, hp, bind, Except.bind, hn]

/-- A file at one place whose copy can stand at another one until it takes the place of the file. -/
structure TakesCopy (d : Disk) (path : String) (p q : List String) : Prop where
  place : d.place path = .ok p
  copyPlace : d.place (Path.withExtension path "csv.tmp") = .ok q
  ne : q ≠ p
  node : d.node? p ≠ some .folder
  copyNode : d.node? q ≠ some .folder
  names : NamesFile path
  readable : Path.namesFolder path = false
  copyNames : NamesFile (Path.withExtension path "csv.tmp")
  copyReadable : Path.namesFolder (Path.withExtension path "csv.tmp") = false

theorem WellFormed.read_of_write_copy (hd : d.WellFormed) {known text : String}
    (hread : d.read path = .ok known)
    (hwrite : d.write (Path.withExtension path "csv.tmp") text = .ok d') :
    d'.read path = .ok known := by
  obtain ⟨p, hp, hnode, hfile⟩ := read_eq_ok.mp hread
  obtain ⟨q, hq, hfree, _, rfl⟩ := write_eq_ok_iff.mp hwrite
  have hne := hd.place_copy_ne hread hp hq
  refine read_eq_ok.mpr ⟨p, (KeepsFolders.put hfree _).place hp, ?_, hfile⟩
  rw [node?_put_of_ne d _ hne.symm, hnode]

/-- One replacement by a copy shows that there is room for it. -/
theorem WellFormed.takesCopy (hd : d.WellFormed) {known text : String} {renamed : Disk}
    (hread : d.read path = .ok known)
    (hwrite : d.write (Path.withExtension path "csv.tmp") text = .ok d')
    (hrename : d'.rename (Path.withExtension path "csv.tmp") path = .ok renamed) :
    ∃ p q, d.TakesCopy path p q := by
  obtain ⟨p, hp, hnode, hfile⟩ := read_eq_ok.mp hread
  obtain ⟨q, hq, hfree, hcopyNames, rfl⟩ := write_eq_ok_iff.mp hwrite
  obtain ⟨copied, removed, hcopy, _, htarget⟩ := rename_eq_ok hrename
  obtain ⟨_, _, _, hcopyFile⟩ := read_eq_ok.mp hcopy
  obtain ⟨_, _, _, hnames, _⟩ := write_eq_ok_iff.mp htarget
  refine ⟨p, q, hp, hq, hd.place_copy_ne hread hp hq, ?_, hfree, hnames, hfile, hcopyNames,
    hcopyFile⟩
  rw [hnode]
  nofun

/-- A copy takes the place of the file, and then there is room for the next one. -/
theorem TakesCopy.replace (h : d.TakesCopy path p q) (text : String) : ∃ written renamed,
    d.write (Path.withExtension path "csv.tmp") text = .ok written ∧
      written.rename (Path.withExtension path "csv.tmp") path = .ok renamed ∧
      renamed.read path = .ok text ∧ renamed.TakesCopy path p q := by
  have hq := ne_nil_of_node? h.copyNode
  have hcopy := node?_put_self d hq (.file text)
  let written := d.put q (.file text)
  let removed := written.drop q
  have hwritten : d.KeepsFolders written := .put h.copyNode _
  have hremoved : written.KeepsFolders removed := .drop (by simp [written, hcopy])
  have hnode : removed.node? p ≠ some .folder := by
    rw [node?_drop_of_ne written h.ne.symm, node?_put_of_ne d _ h.ne.symm]
    exact h.node
  have hrenamed : removed.KeepsFolders (removed.put p (.file text)) := .put hnode _
  have hkept : ∀ {other place}, d.place other = .ok place →
      removed.place other = .ok place := fun hplace => hremoved.place (hwritten.place hplace)
  have hremove : written.remove (Path.withExtension path "csv.tmp") = .ok removed :=
    remove_eq_ok (hwritten.place h.copyPlace) hcopy
  have hread : written.read (Path.withExtension path "csv.tmp") = .ok text :=
    read_eq_ok.mpr ⟨q, hwritten.place h.copyPlace, hcopy, h.copyReadable⟩
  have hwrite : removed.write path text = .ok (removed.put p (.file text)) :=
    write_eq_ok_iff.mpr ⟨p, hkept h.place, hnode, h.names, rfl⟩
  have hfile := node?_put_self removed (ne_nil_of_node? hnode) (.file text)
  refine ⟨written, removed.put p (.file text), ?_, ?_, ?_, ?_⟩
  · exact write_eq_ok_iff.mpr ⟨q, h.copyPlace, h.copyNode, h.copyNames, rfl⟩
  · simp only [rename, hremove, hread, bind, Except.bind, hwrite]
  · exact read_eq_ok.mpr ⟨p, hrenamed.place (hkept h.place), hfile, h.readable⟩
  · refine { h with place := ?_, copyPlace := ?_, node := ?_, copyNode := ?_ }
    · exact hrenamed.place (hkept h.place)
    · exact hrenamed.place (hkept h.copyPlace)
    · rw [hfile]
      nofun
    · rw [node?_put_of_ne removed _ h.ne, node?_drop_self written hq]
      nofun

end TelescopePointing.Disk
