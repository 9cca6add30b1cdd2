import Mathlib.Data.String.Basic
import TelescopePointing.Disk

namespace TelescopePointing.Path

open String

/-- A split that has read a word so far goes on as the split of a list of characters. -/
theorem splitOnAux_slash (before word rest : List Char) (done : List String) :
    splitOnAux (ofList (before ++ word ++ rest)) "/" ⟨utf8Len before⟩
      ⟨utf8Len before + utf8Len word⟩ 0 done =
        done.reverse ++ (rest.splitOnPPrepend (· == '/') word.reverse).map ofList := by
  induction rest generalizing before word done with
  | nil =>
    have hend := atEnd_of_valid (before ++ word) []
    have hword := extract_of_valid before word []
    rw [utf8Len_append] at hend
    rw [splitOnAux, if_pos (hend.mpr rfl), hword]
    simp
  | cons c rest ih =>
    have hend := mt (atEnd_of_valid (before ++ word) (c :: rest)).mp (List.cons_ne_nil c rest)
    have hget := get_of_valid (before ++ word) (c :: rest)
    have hnext := next_of_valid (before ++ word) c rest
    have hword := extract_of_valid before word (c :: rest)
    rw [utf8Len_append] at hend hget hnext
    have hslash : Pos.Raw.get "/" 0 = '/' := by decide
    rw [splitOnAux, if_neg hend, hget, List.headD_cons, hslash]
    by_cases hc : c = '/'
    · subst hc
      have hlast : (Pos.Raw.next "/" 0).atEnd "/" = true := by decide
      have hback : ∀ n, Pos.Raw.unoffsetBy ⟨n + '/'.utf8Size⟩ (Pos.Raw.next "/" 0) = ⟨n⟩ :=
        fun _ => rfl
      have h := ih (before ++ word ++ ['/']) [] (ofList word :: done)
      rw [if_pos (beq_self_eq_true _)]
      dsimp only
      rw [if_pos hlast, hnext, hback, hword]
      simpa [List.splitOnPPrepend_cons_eq_if, Nat.add_assoc] using h
    · have hback : ∀ n, Pos.Raw.unoffsetBy ⟨n⟩ 0 = ⟨n⟩ := fun _ => rfl
      have h := ih before (word ++ [c]) done
      rw [if_neg (by simpa using hc), hback, hnext]
      simpa [List.splitOnPPrepend_cons_eq_if, hc, Nat.add_assoc] using h

theorem splitOn_slash (s : String) : s.splitOn "/" = (s.toList.splitOn '/').map ofList := by
  have h := splitOnAux_slash [] [] s.toList []
  rw [splitOn, if_neg (by decide), List.splitOn]
  simpa using h

theorem components_eq (path : String) :
    components path = ((path.toList.splitOn '/').map ofList).filter (· != "") := by
  rw [components, splitOn_slash]

theorem endsWith_iff (s ending : String) :
    s.endsWith ending = true ↔ ending.toList <:+ s.toList := by
  rw [← endsWith_toSlice, Slice.endsWith_string_iff, copy_toSlice]

theorem startsWith_iff (s beginning : String) :
    s.startsWith beginning = true ↔ beginning.toList <+: s.toList := by
  rw [← startsWith_toSlice, Slice.startsWith_string_iff, copy_toSlice]

theorem startsWith_slash_eq_false {path : String} (h : path.toList.head? ≠ some '/') :
    path.startsWith "/" = false := by
  rw [Bool.eq_false_iff, ne_eq, startsWith_iff]
  rintro ⟨rest, hrest⟩
  exact h (hrest ▸ rfl)

def lastName (path : String) : List Char := (path.toList.splitOn '/').getLast?.getD []

theorem splitOn_getLast? (path : String) :
    (path.toList.splitOn '/').getLast? = some (lastName path) := by
  rw [lastName, List.getLast?_eq_some_getLast (List.splitOn_ne_nil '/' path.toList)]
  rfl

theorem lastName_ofList {before name : List Char}
    (hbefore : before = [] ∨ ∃ start, before = start ++ ['/']) (hname : '/' ∉ name) :
    lastName (ofList (before ++ name)) = name := by
  rw [lastName, toList_ofList]
  rcases hbefore with rfl | ⟨start, rfl⟩
  · rw [List.nil_append, List.splitOn_eq_singleton hname]
    rfl
  · rw [List.append_assoc, List.singleton_append, List.splitOn_append_cons_self,
      List.splitOn_eq_singleton hname, List.getLast?_concat]
    rfl

theorem exists_before_lastName (path : String) : ∃ before, path.toList = before ++ lastName path ∧
    '/' ∉ lastName path ∧ (before = [] ∨ ∃ start, before = start ++ ['/']) := by
  by_cases h : '/' ∈ path.toList
  · obtain ⟨last, rest, hreverse, hlast⟩ := List.eq_append_cons_of_mem (List.mem_reverse.mpr h)
    have hpath : path.toList = (rest.reverse ++ ['/']) ++ last.reverse := by
      rw [← List.reverse_reverse path.toList, hreverse]
      simp
    have hslash : '/' ∉ last.reverse := mt List.mem_reverse.mp hlast
    have hname := lastName_ofList (.inr ⟨rest.reverse, rfl⟩) hslash
    rw [← hpath, ofList_toList] at hname
    rw [hname]
    exact ⟨_, hpath, hslash, .inr ⟨_, rfl⟩⟩
  · have hname : lastName path = path.toList := by
      rw [lastName, List.splitOn_eq_singleton h]
      rfl
    rw [hname]
    exact ⟨[], rfl, h, .inl rfl⟩

theorem components_getLast? {path : String} (h : lastName path ≠ []) :
    (components path).getLast? = some (ofList (lastName path)) := by
  obtain ⟨start, hsplit⟩ := List.getLast?_eq_some_iff.mp (splitOn_getLast? path)
  have hfull : ofList (lastName path) ≠ "" := by
    rw [ne_eq, ← toList_inj, toList_ofList]
    exact h
  rw [components_eq, hsplit, List.map_append, List.filter_append]
  simp [hfull]

theorem dropPoints_of_getLast? {names : List String} {name : String}
    (h : names.getLast? = some name) (hname : name ≠ ".") : dropPoints names = names := by
  obtain ⟨start, rfl⟩ := List.getLast?_eq_some_iff.mp h
  simp [dropPoints, hname]

theorem stem_eq (name : String) : ∃ tail, tail = (name.toList.reverse.dropWhile (· != '.')).drop 1 ∧
    (tail = [] ∧ stem name = name ∨ tail ≠ [] ∧ (stem name).toList = tail.reverse) := by
  refine ⟨_, rfl, ?_⟩
  unfold stem
  dsimp only
  by_cases h : (name.toList.reverse.dropWhile (· != '.')).drop 1 = []
  · exact .inl ⟨h, if_pos (List.isEmpty_iff.mpr h)⟩
  · refine .inr ⟨h, ?_⟩
    rw [if_neg (mt List.isEmpty_iff.mp h), toList_ofList]

theorem slash_not_mem_stem {name : String} (h : '/' ∉ name.toList) : '/' ∉ (stem name).toList := by
  obtain ⟨tail, htail, ⟨_, hstem⟩ | ⟨_, hstem⟩⟩ := stem_eq name
  · rwa [hstem]
  · rw [hstem, htail, List.mem_reverse]
    intro hmem
    have hdrop := List.mem_of_mem_drop hmem
    exact h (List.mem_reverse.mp (List.dropWhile_sublist _ |>.mem hdrop))

/-- An extension with a point of its own never gives back the name that it is put on. -/
theorem stem_append_ne (name : String) {extension : String} (h : '.' ∈ extension.toList) :
    stem name ++ "." ++ extension ≠ name := by
  intro hname
  have hchars : name.toList = (stem name).toList ++ '.' :: extension.toList := by
    rw [← hname, toList_append, toList_append, List.append_assoc, hname]
    rfl
  obtain ⟨last, rest, hreverse, hlast⟩ := List.eq_append_cons_of_mem (List.mem_reverse.mpr h)
  obtain ⟨tail, htail, hstem⟩ := stem_eq name
  have htail' : tail = rest ++ '.' :: (stem name).toList.reverse := by
    rw [htail, hchars, List.reverse_append, List.reverse_cons, hreverse, List.append_assoc,
      List.append_assoc, List.dropWhile_append_of_pos fun c hc => ?_]
    · rfl
    · simpa using ne_of_mem_of_not_mem hc hlast
  rcases hstem with ⟨hnil, _⟩ | ⟨_, hstem⟩
  · rw [hnil] at htail'
    simp at htail'
  · rw [hstem, List.reverse_reverse] at htail'
    have hlength := congrArg List.length htail'
    rw [List.length_append, List.length_cons] at hlength
    omega

theorem withExtension_eq {path : String} (extension : String) {before : List Char}
    (hpath : path.toList = before ++ lastName path) (hslash : '/' ∉ lastName path)
    (hne : lastName path ≠ []) (hdots : lastName path ≠ ['.', '.']) :
    (withExtension path extension).toList =
      before ++ (stem (ofList (lastName path)) ++ "." ++ extension).toList := by
  have htrimmed : ofList (path.toList.reverse.dropWhile (· == '/')).reverse = path := by
    obtain ⟨c, cs, hreverse⟩ := List.exists_cons_of_ne_nil (mt List.reverse_eq_nil_iff.mp hne)
    have hc : c ∈ lastName path := List.mem_reverse.mp (hreverse ▸ List.mem_cons_self)
    have hhead : ¬ (c == '/') = true := by simpa using ne_of_mem_of_not_mem hc hslash
    have hstart : path.toList.reverse = c :: (cs ++ before.reverse) := by
      rw [hpath, List.reverse_append, hreverse, List.cons_append]
    rw [hstart, List.dropWhile_cons_of_neg (p := (· == '/')) hhead, ← hstart,
      List.reverse_reverse, ofList_toList]
  have hlast : (path.splitOn "/").getLast? = some (ofList (lastName path)) := by
    rw [splitOn_slash, List.getLast?_map, splitOn_getLast?]
    rfl
  have hbefore : path.toList.take (path.length - (ofList (lastName path)).length) = before := by
    have hlength : path.length - (ofList (lastName path)).length = before.length := by
      rw [length_ofList, ← length_toList, hpath, List.length_append, Nat.add_sub_cancel]
    rw [hlength, hpath, List.take_left]
  unfold withExtension
  dsimp only
  rw [htrimmed, hlast]
  split
  next h =>
    rw [Option.some.injEq, ← toList_inj, toList_ofList] at h
    exact absurd h hdots
  next h =>
    rw [Option.some.injEq, ← toList_inj, toList_ofList] at h
    exact absurd h hne
  next h => cases h
  next name _ _ h =>
    obtain rfl := Option.some.inj h
    rw [hbefore]
    simp

theorem lastName_withExtension {path extension : String} (hslash : '/' ∉ extension.toList)
    (hne : lastName path ≠ []) (hdots : lastName path ≠ ['.', '.']) :
    lastName (withExtension path extension) =
      (stem (ofList (lastName path)) ++ "." ++ extension).toList := by
  obtain ⟨before, hpath, hname, hbefore⟩ := exists_before_lastName path
  have hstem : '/' ∉ (stem (ofList (lastName path))).toList :=
    slash_not_mem_stem (by rwa [toList_ofList])
  have hlast : '/' ∉ (stem (ofList (lastName path)) ++ "." ++ extension).toList := by
    simp only [toList_append, List.mem_append, not_or]
    exact ⟨⟨hstem, by decide⟩, hslash⟩
  rw [← ofList_toList (s := withExtension path extension),
    withExtension_eq extension hpath hname hne hdots]
  exact lastName_ofList hbefore hlast

structure HasOwnName (path : String) : Prop where
  full : lastName path ≠ []
  point : lastName path ≠ ['.']
  points : lastName path ≠ ['.', '.']

theorem HasOwnName.withExtension {path extension : String} (h : HasOwnName path)
    (hslash : '/' ∉ extension.toList) (hlong : 2 ≤ extension.length) :
    HasOwnName (withExtension path extension) := by
  have hlength : 2 < (lastName (Path.withExtension path extension)).length := by
    rw [lastName_withExtension hslash h.full h.points, length_toList, length_append, length_append]
    have hpoint : ".".length = 1 := rfl
    omega
  constructor <;>
  · intro hname
    rw [hname] at hlength
    simp at hlength

theorem lastName_append (start : String) {ending : String} (hslash : '/' ∉ ending.toList) :
    lastName (start ++ ending) = lastName start ++ ending.toList := by
  obtain ⟨before, hstart, hname, hbefore⟩ := exists_before_lastName start
  have hlast : '/' ∉ lastName start ++ ending.toList := by
    rw [List.mem_append]
    exact not_or.mpr ⟨hname, hslash⟩
  rw [← lastName_ofList hbefore hlast, ← List.append_assoc, ← hstart, ← toList_append,
    ofList_toList]

theorem HasOwnName.append (start : String) {ending : String} (hslash : '/' ∉ ending.toList)
    (hlong : 3 ≤ ending.length) : HasOwnName (start ++ ending) := by
  have hlength : 3 ≤ (lastName (start ++ ending)).length := by
    rw [lastName_append start hslash, List.length_append, length_toList]
    omega
  constructor <;>
  · intro hname
    rw [hname] at hlength
    simp at hlength

theorem join_eq_append (folder name : String) : ∃ start, join folder name = start ++ name := by
  unfold join
  split
  · exact ⟨"", by simp⟩
  · split
    · exact ⟨folder, rfl⟩
    · exact ⟨folder ++ "/", rfl⟩

end TelescopePointing.Path
