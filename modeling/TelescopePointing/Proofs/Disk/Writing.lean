import Mathlib.Tactic.SplitIfs
import TelescopePointing.Disk
import TelescopePointing.Proofs.Alike

namespace TelescopePointing.Disk

variable {d d' : Disk} {p q : List String}

theorem checkPath_eq_ok {path : String} (hzero : '\x00' ∉ path.toList)
    (hsize : path.utf8ByteSize < 4096) : checkPath path = .ok () := by
  rw [checkPath, String.contains_char_eq, decide_eq_false hzero, if_neg Bool.false_ne_true,
    if_neg (Nat.not_le.mpr hsize)]

theorem node?_put_self (d : Disk) (hp : p ≠ []) (n : DiskNode) : (d.put p n).node? p = some n := by
  simp [node?, put, hp]

theorem lookup_filter_ne {β : Type} (nodes : List (List String × β)) (h : q ≠ p) :
    (nodes.filter fun e => e.1 != p).lookup q = nodes.lookup q := by
  induction nodes with
  | nil => rfl
  | cons e nodes ih =>
    rw [List.filter_cons, List.lookup_cons]
    by_cases he : e.1 = p
    · have hq : (q == e.1) = false := by simpa [he] using h
      rw [if_neg (by simp [he]), ih, hq]
    · rw [if_pos (by simpa using he), List.lookup_cons, ih]

theorem node?_put_of_ne (d : Disk) (n : DiskNode) (h : q ≠ p) :
    (d.put p n).node? q = d.node? q := by
  have hq : (q == p) = false := by simpa using h
  simp only [node?, put, List.lookup_cons, hq, lookup_filter_ne _ h]

/-- Every folder of a disk is one of another disk too, and relative paths start at one place. -/
structure KeepsFolders (d d' : Disk) : Prop where
  home : d'.home = d.home
  folder : ∀ q, d.node? q = some .folder → d'.node? q = some .folder

theorem KeepsFolders.put (hp : d.node? p ≠ some .folder) (n : DiskNode) :
    d.KeepsFolders (d.put p n) where
  home := rfl
  folder q hq := by
    have hne : q ≠ p := by
      rintro rfl
      exact hp hq
    rw [node?_put_of_ne d n hne, hq]

theorem enter_cons (d : Disk) (here : List String) (name : String) (names : List String) :
    d.enter here (name :: names) = (child here name).bind fun next =>
      match d.node? next with
      | some .folder => d.enter next names
      | some (.file _) => .error .notFolder
      | none => .error .notFound := by
  unfold enter
  rw [List.foldlM_cons]
  cases child here name with
  | error fault => rfl
  | ok next =>
    simp only [bind, Except.bind]
    cases d.node? next with
    | none => rfl
    | some n => cases n <;> rfl

theorem KeepsFolders.enter (h : d.KeepsFolders d') {here names : List String}
    (hp : d.enter here names = .ok p) : d'.enter here names = .ok p := by
  induction names generalizing here with
  | nil => exact hp
  | cons name names ih =>
    rw [enter_cons] at hp ⊢
    obtain ⟨next, hchild, hp⟩ := bind_eq_ok hp
    rw [hchild]
    cases hnode : d.node? next with
    | none => simp [hnode] at hp
    | some n =>
      cases n with
      | file text => simp [hnode] at hp
      | folder =>
        rw [hnode] at hp
        simp only [Except.bind, h.folder next hnode]
        exact ih hp

theorem KeepsFolders.place (h : d.KeepsFolders d') {path : String} (hp : d.place path = .ok p) :
    d'.place path = .ok p := by
  have horigin : d'.origin path = d.origin path := by simp only [origin, h.home]
  unfold Disk.place at hp ⊢
  rw [horigin]
  obtain ⟨_, hcheck, hp⟩ := bind_eq_ok hp
  rw [hcheck]
  simp only [bind, Except.bind]
  split at hp
  · cases hp
  next hne =>
    rw [if_neg hne]
    obtain ⟨here, hway, hp⟩ := bind_eq_ok hp
    rw [h.enter hway]
    exact hp

theorem ne_nil_of_node? (hp : d.node? p ≠ some .folder) : p ≠ [] := by
  rintro rfl
  exact hp rfl

structure NamesFile (path : String) : Prop where
  point : ((Path.components path).getLast? == some ".") = false
  slash : path.endsWith "/" = false

theorem write_eq_ok_iff {path text : String} : d.write path text = .ok d' ↔
    ∃ p, d.place path = .ok p ∧ d.node? p ≠ some .folder ∧ NamesFile path ∧
      d' = d.put p (.file text) := by
  unfold write
  cases hp : d.place path with
  | error fault => simp [bind, Except.bind]
  | ok p =>
    simp only [bind, Except.bind, Except.ok.injEq, exists_eq_left']
    have hput : ∀ fault, (if ((Path.components path).getLast? == some ".") = true then .error fault
      else if path.endsWith "/" = true then .error .isFolder
      else (.ok (d.put p (.file text)) : Except DiskFault Disk)) = .ok d' ↔
        NamesFile path ∧ d' = d.put p (.file text) := by
      intro fault
      constructor
      · intro h
        split_ifs at h with hpoint hslash
        exact ⟨⟨Bool.eq_false_iff.mpr hpoint, Bool.eq_false_iff.mpr hslash⟩,
          (Except.ok.inj h).symm⟩
      · rintro ⟨⟨hpoint, hslash⟩, rfl⟩
        rw [hpoint, hslash, if_neg Bool.false_ne_true, if_neg Bool.false_ne_true]
    cases hn : d.node? p with
    | none => simpa using hput .notFound
    | some n =>
      cases n with
      | folder => simp
      | file known => simpa using hput .notFolder

theorem read_eq_ok {path text : String} : d.read path = .ok text ↔
    ∃ p, d.place path = .ok p ∧ d.node? p = some (.file text) ∧ Path.namesFolder path = false := by
  unfold read
  cases hp : d.place path with
  | error fault => simp [bind, Except.bind]
  | ok p =>
    simp only [bind, Except.bind]
    cases hn : d.node? p with
    | none => simp [hn]
    | some n =>
      cases n with
      | folder => simp [hn]
      | file known =>
        cases Path.namesFolder path <;> simp [hn]

theorem read_write {path text known : String} (h : d.write path text = .ok d')
    (hread : d'.read path = .ok known) : known = text := by
  obtain ⟨p, hp, hn, _, rfl⟩ := write_eq_ok_iff.mp h
  obtain ⟨q, hq, hnode, _⟩ := read_eq_ok.mp hread
  rw [(KeepsFolders.put hn _).place hp, Except.ok.injEq] at hq
  rw [← hq, node?_put_self d (ne_nil_of_node? hn)] at hnode
  simpa using hnode.symm

theorem rename_eq_ok {source target : String} (h : d.rename source target = .ok d') :
    ∃ text removed, d.read source = .ok text ∧ d.remove source = .ok removed ∧
      removed.write target text = .ok d' := by
  obtain ⟨removed, hremove, h⟩ := bind_eq_ok h
  obtain ⟨text, hread, h⟩ := bind_eq_ok h
  exact ⟨text, removed, hread, hremove, h⟩

theorem read_replaced {copy path text : String} {written renamed : Disk}
    (hwrite : d.write copy text = .ok written) (hrename : written.rename copy path = .ok renamed)
    (hfolder : Path.namesFolder path = false) : renamed.read path = .ok text := by
  obtain ⟨known, removed, hread, _, htarget⟩ := rename_eq_ok hrename
  obtain rfl := read_write hwrite hread
  obtain ⟨p, hp, hn, _, rfl⟩ := write_eq_ok_iff.mp htarget
  refine read_eq_ok.mpr ⟨p, (KeepsFolders.put hn _).place hp, ?_, hfolder⟩
  exact node?_put_self removed (ne_nil_of_node? hn) _

end TelescopePointing.Disk
