import TelescopePointing.Proofs.Disk.Copy

namespace TelescopePointing.Disk

/-- Apart from new folders a disk is changed only where some paths lead. -/
structure ChangesOnly (paths : List String) (d d' : Disk) : Prop extends d.KeepsFolders d' where
  node : ∀ q, d'.node? q = d.node? q ∨ d.node? q = none ∧ d'.node? q = some .folder ∨
    ∃ path ∈ paths, d'.place path = .ok q

variable {d d' : Disk} {paths : List String} {path text : String} {p : List String}

namespace ChangesOnly

theorem refl (paths : List String) (d : Disk) : d.ChangesOnly paths d :=
  ⟨⟨rfl, fun _ h => h⟩, fun _ => .inl rfl⟩

theorem trans {d'' : Disk} (h : d.ChangesOnly paths d') (h' : d'.ChangesOnly paths d'') :
    d.ChangesOnly paths d'' := by
  refine ⟨⟨h'.home.trans h.home, fun q hq => h'.folder q (h.folder q hq)⟩, fun q => ?_⟩
  rcases h'.node q with hsame | ⟨hnone, hmade⟩ | hnamed
  · rcases h.node q with hsame' | ⟨hnone, hmade⟩ | ⟨path, hpath, hplace⟩
    · exact .inl (hsame.trans hsame')
    · exact .inr (.inl ⟨hnone, hsame.trans hmade⟩)
    · exact .inr (.inr ⟨path, hpath, h'.place hplace⟩)
  · rcases h.node q with hsame' | ⟨-, hmade'⟩ | ⟨path, hpath, hplace⟩
    · exact .inr (.inl ⟨hsame' ▸ hnone, hmade⟩)
    -- A folder that was made before is there and not made again.
    · cases hnone.symm.trans hmade'
    · exact .inr (.inr ⟨path, hpath, h'.place hplace⟩)
  · exact .inr (.inr hnamed)

theorem mono {more : List String} (h : d.ChangesOnly paths d') (hsub : paths ⊆ more) :
    d.ChangesOnly more d' := by
  refine ⟨h.toKeepsFolders, fun q => ?_⟩
  rcases h.node q with hsame | hmade | ⟨path, hpath, hplace⟩
  · exact .inl hsame
  · exact .inr (.inl hmade)
  · exact .inr (.inr ⟨path, hsub hpath, hplace⟩)

theorem put (hp : d.place path = .ok p) (hn : d.node? p ≠ some .folder) (n : DiskNode) :
    d.ChangesOnly [path] (d.put p n) where
  toKeepsFolders := .put hn n
  node q := by
    by_cases hq : q = p
    · rw [hq]
      exact .inr (.inr ⟨path, List.mem_singleton_self path, (KeepsFolders.put hn n).place hp⟩)
    · exact .inl (node?_put_of_ne d n hq)

theorem drop (hp : d.place path = .ok p) (hn : d.node? p ≠ some .folder) :
    d.ChangesOnly [path] (d.drop p) where
  toKeepsFolders := .drop hn
  node q := by
    by_cases hq : q = p
    · rw [hq]
      exact .inr (.inr ⟨path, List.mem_singleton_self path, (KeepsFolders.drop hn).place hp⟩)
    · exact .inl (node?_drop_of_ne d hq)

theorem write (h : d.write path text = .ok d') : d.ChangesOnly [path] d' := by
  obtain ⟨p, hp, hn, -, rfl⟩ := write_eq_ok_iff.mp h
  exact .put hp hn _

theorem remove (h : d.remove path = .ok d') : d.ChangesOnly [path] d' := by
  obtain ⟨p, hp, h⟩ := bind_eq_ok h
  cases hnode : d.node? p with
  | none => simp [hnode] at h
  | some n =>
    cases n with
    | folder => simp [hnode] at h
    | file known =>
      rw [hnode] at h
      obtain rfl := Except.ok.inj h
      refine .drop hp ?_
      rw [hnode]
      nofun

theorem rename {source target : String} (h : d.rename source target = .ok d') :
    d.ChangesOnly [source, target] d' := by
  obtain ⟨text, removed, -, hremove, hwrite⟩ := rename_eq_ok h
  exact ((remove hremove).mono (by simp)).trans ((write hwrite).mono (by simp))

theorem makeFolder {start names : List String} (h : d.makeFolder start names = .ok d') :
    d.ChangesOnly [] d' := by
  obtain ⟨here, -, h⟩ := bind_eq_ok h
  obtain ⟨next, -, h⟩ := bind_eq_ok h
  cases hnode : d.node? next with
  | some n => simp [hnode] at h
  | none =>
    rw [hnode] at h
    obtain rfl := Except.ok.inj h
    have hn : d.node? next ≠ some .folder := by
      rw [hnode]
      nofun
    refine ⟨.put hn _, fun q => ?_⟩
    by_cases hq : q = next
    · rw [hq]
      exact .inr (.inl ⟨hnode, node?_put_self d (ne_nil_of_node? hn) _⟩)
    · exact .inl (node?_put_of_ne d _ hq)

theorem of_orThere {start names : List String} {fault : DiskFault}
    (h : (match d.enter start names with
      | .ok _ => .ok d
      | .error _ => .error fault) = (.ok d' : Except DiskFault Disk)) : d.ChangesOnly [] d' := by
  split at h
  · obtain rfl := Except.ok.inj h
    exact .refl [] d
  · cases h

theorem makeFolders {start : List String} {fuel : Nat} {names : List String}
    (h : Disk.makeFolders start fuel names d = .ok d') : d.ChangesOnly [] d' := by
  induction fuel generalizing names d d' with
  | zero =>
    obtain rfl := Except.ok.inj h
    exact .refl [] d
  | succ fuel ih =>
    unfold Disk.makeFolders at h
    dsimp only at h
    split at h
    next made hmade =>
      obtain rfl := Except.ok.inj h
      exact makeFolder hmade
    next =>
      obtain ⟨way, hway, h⟩ := bind_eq_ok h
      -- The folders on the way are there now, and the last one is tried again.
      refine (ih hway).trans ?_
      split at h
      next made hmade =>
        obtain rfl := Except.ok.inj h
        exact makeFolder hmade
      next => exact of_orThere h
    next => exact of_orThere h

theorem createFolder (h : d.createFolder path = .ok d') : d.ChangesOnly [] d' := by
  obtain ⟨_, -, h⟩ := bind_eq_ok h
  exact makeFolders h

end ChangesOnly

end TelescopePointing.Disk
