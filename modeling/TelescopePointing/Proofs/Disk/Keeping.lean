import TelescopePointing.Proofs.Disk.Changes

namespace TelescopePointing

namespace Path

/-- A name without a slash that is too long to stand for a folder on the way. -/
structure NamesOneFile (name : String) : Prop where
  slash : '/' ∉ name.toList
  long : 3 ≤ name.length

variable {folder name path : String}

theorem lastName_of_endsWith (h : path.endsWith "/" = true) : lastName path = [] := by
  obtain ⟨start, hpath⟩ := (endsWith_iff path "/").mp h
  have hname : lastName (String.ofList (start ++ ['/'] ++ [])) = [] :=
    lastName_ofList (.inr ⟨start, rfl⟩) List.not_mem_nil
  rwa [List.append_nil, show start ++ ['/'] = path.toList from hpath, String.ofList_toList] at hname

theorem lastName_join (folder : String) (h : '/' ∉ name.toList) :
    lastName (join folder name) = name.toList := by
  have hrelative : name.startsWith "/" = false :=
    startsWith_slash_eq_false fun hhead => h (List.mem_of_head? hhead)
  have hsingle : lastName name = name.toList := by
    rw [lastName, List.splitOn_eq_singleton h]
    rfl
  unfold join
  rw [hrelative, Bool.false_or]
  split
  · exact hsingle
  · split
    next hslash => rw [lastName_append folder h, lastName_of_endsWith hslash, List.nil_append]
    next =>
      have hslash : (folder ++ "/").endsWith "/" = true := by
        rw [endsWith_iff, String.toList_append]
        exact List.suffix_append _ _
      rw [lastName_append _ h, lastName_of_endsWith hslash, List.nil_append]

theorem NamesOneFile.hasOwnName (h : NamesOneFile name) (folder : String) :
    HasOwnName (join folder name) := by
  obtain ⟨start, hstart⟩ := join_eq_append folder name
  rw [hstart]
  exact .append start h.slash h.long

end Path

namespace Disk

variable {d d' : Disk} {folder name other path text : String} {p q : List String}

theorem place_join (hname : Path.NamesOneFile name) (h : d.place (Path.join folder name) = .ok p) :
    p.getLast? = some name := by
  rw [place_getLast? h (hname.hasOwnName folder), Path.lastName_join folder hname.slash,
    String.ofList_toList]

/-- Different names in a folder lead to different places. -/
theorem place_join_ne (hname : Path.NamesOneFile name) (hother : Path.NamesOneFile other)
    (hne : name ≠ other) (h : d.place (Path.join folder name) = .ok p) :
    d.place (Path.join folder other) ≠ .ok p := fun h' =>
  hne (Option.some.inj ((place_join hname h).symm.trans (place_join hother h')))

theorem ChangesOnly.read {paths : List String} (h : d.ChangesOnly paths d')
    (hapart : ∀ p, d'.place path = .ok p → ∀ other ∈ paths, d'.place other ≠ .ok p)
    (hread : d.read path = .ok text) : d'.read path = .ok text := by
  obtain ⟨p, hp, hnode, hfile⟩ := read_eq_ok.mp hread
  have hp' := h.toKeepsFolders.place hp
  refine read_eq_ok.mpr ⟨p, hp', ?_, hfile⟩
  rcases h.node p with hsame | ⟨hnone, -⟩ | ⟨other, hother, hplace⟩
  · exact hsame.trans hnode
  · cases hnode.symm.trans hnone
  · exact absurd hplace (hapart p hp' other hother)

theorem read_unique {known : String} (hplace : d.place path = d.place other)
    (h : d.read path = .ok text) (h' : d.read other = .ok known) : text = known := by
  obtain ⟨p, hp, hnode, -⟩ := read_eq_ok.mp h
  obtain ⟨q, hq, hnode', -⟩ := read_eq_ok.mp h'
  obtain rfl := Except.ok.inj (hp.symm.trans (hplace.trans hq))
  simpa [hnode] using hnode'

theorem write_of_zero (h : '\x00' ∈ path.toList) : d.write path text = .error .invalidName := by
  have hcheck : checkPath path = .error .invalidName := by
    rw [checkPath, String.contains_char_eq, decide_eq_true h, if_pos rfl]
  unfold write place
  rw [hcheck]
  rfl

structure HasFolder (d : Disk) (path : String) : Prop where
  check : checkPath path = .ok ()
  way : ∃ p, d.enter (d.origin path) (Path.components path) = .ok p

theorem HasFolder.mono (h : d.HasFolder path) (hkeeps : d.KeepsFolders d') : d'.HasFolder path := by
  obtain ⟨p, hp⟩ := h.way
  have horigin : d'.origin path = d.origin path := by simp only [origin, hkeeps.home]
  exact ⟨h.check, p, horigin ▸ hkeeps.enter hp⟩

theorem makeFolder_of_enter {start way : List String} (h : d.enter start (way ++ [name]) = .ok p) :
    d.makeFolder start (way ++ [name]) = .error .occupied := by
  have hway : d.enter start (way ++ [name]) = (d.enter start way).bind fun here =>
      d.enter here [name] := List.foldlM_append
  obtain ⟨here, hhere, hlast⟩ := bind_eq_ok (hway.symm.trans h)
  rw [enter_cons] at hlast
  obtain ⟨next, hnext, hlast⟩ := bind_eq_ok hlast
  unfold makeFolder
  rw [List.dropLast_concat, List.getLast?_concat, hhere]
  change (child here name >>= _) = _
  rw [hnext]
  cases hnode : d.node? next with
  | none => simp [hnode] at hlast
  | some n =>
    simp only [bind, Except.bind, hnode]
    rfl

theorem HasFolder.createFolder (h : d.HasFolder path) : d.createFolder path = .ok d := by
  obtain ⟨p, hp⟩ := h.way
  unfold Disk.createFolder
  rw [h.check]
  change makeFolders _ (Path.components path).length (Path.components path) d = _
  rcases List.eq_nil_or_concat (Path.components path) with hnil | ⟨way, name, hnames⟩
  · rw [hnil]
    rfl
  · rw [hnames, List.concat_eq_append] at hp ⊢
    rw [List.length_append, List.length_singleton, makeFolders, makeFolder_of_enter hp]
    dsimp only
    rw [hp]

structure TakesFile (d : Disk) (path : String) : Prop where
  free : ∃ p, d.place path = .ok p ∧ d.node? p ≠ some .folder
  names : NamesFile path

theorem TakesFile.write (h : d.TakesFile path) (text : String) :
    ∃ d', d.write path text = .ok d' := by
  obtain ⟨p, hp, hfree⟩ := h.free
  exact ⟨_, write_eq_ok_iff.mpr ⟨p, hp, hfree, h.names, rfl⟩⟩

theorem TakesFile.of_write (h : d.TakesFile path) (hwrite : d.write other text = .ok d') :
    d'.TakesFile path := by
  obtain ⟨p, hp, hfree⟩ := h.free
  obtain ⟨q, -, hnode, -, rfl⟩ := write_eq_ok_iff.mp hwrite
  refine ⟨⟨p, (KeepsFolders.put hnode _).place hp, ?_⟩, h.names⟩
  by_cases hpq : p = q
  · rw [hpq, node?_put_self d (ne_nil_of_node? hnode)]
    nofun
  · rwa [node?_put_of_ne d _ hpq]

end Disk

end TelescopePointing
