import Mathlib.Tactic.SplitIfs
import TelescopePointing.Table.Reader
import TelescopePointing.Table.Writer

namespace TelescopePointing.Table

section Scan

variable (cell : List Char) (record : List String) (c : Char) (cs : List Char)

theorem scan_line_cons : scan .line cell record (c :: cs) =
    if isLineBreak c then scan .line [] [] cs
    else if c = ',' then scan .field [] (closeField cell record) cs
    else if c = '"' then scan .quoted [] record cs
    else scan .plain (c :: cell) record cs := rfl

theorem scan_field_cons : scan .field cell record (c :: cs) =
    if isLineBreak c then closeRecord cell record :: scan .line [] [] cs
    else if c = ',' then scan .field [] (closeField cell record) cs
    else if c = '"' then scan .quoted [] record cs
    else scan .plain (c :: cell) record cs := rfl

theorem scan_plain_cons : scan .plain cell record (c :: cs) =
    if isLineBreak c then closeRecord cell record :: scan .line [] [] cs
    else if c = ',' then scan .field [] (closeField cell record) cs
    else if c = '"' then scan .plain (c :: cell) record cs
    else scan .plain (c :: cell) record cs := rfl

theorem scan_quoted_cons : scan .quoted cell record (c :: cs) =
    if c = '"' then scan .afterQuote cell record cs
    else scan .quoted (c :: cell) record cs := rfl

theorem scan_afterQuote_cons : scan .afterQuote cell record (c :: cs) =
    if isLineBreak c then closeRecord cell record :: scan .line [] [] cs
    else if c = ',' then scan .field [] (closeField cell record) cs
    else if c = '"' then scan .quoted (c :: cell) record cs
    else scan .plain (c :: cell) record cs := rfl

theorem closeRecord_ne_nil : closeRecord cell record ≠ [] := by
  simp [closeRecord, closeField]

theorem scan_ne_nil (p : Place) : ∀ r ∈ scan p cell record cs, r ≠ [] := by
  induction cs generalizing p cell record with
  | nil =>
    have hend : ∀ r ∈ [closeRecord cell record], r ≠ [] := by
      simpa using closeRecord_ne_nil cell record
    cases p with
    | line => exact fun _ h => absurd h List.not_mem_nil
    | _ => exact hend
  | cons c cs ih =>
    have hbreak : ∀ r ∈ closeRecord cell record :: scan .line [] [] cs, r ≠ [] :=
      List.forall_mem_cons.mpr ⟨closeRecord_ne_nil cell record, ih _ _ _⟩
    cases p with
    | line =>
      rw [scan_line_cons]
      split_ifs <;> exact ih _ _ _
    | field =>
      rw [scan_field_cons]
      split_ifs <;> first | exact hbreak | exact ih _ _ _
    | plain =>
      rw [scan_plain_cons]
      split_ifs <;> first | exact hbreak | exact ih _ _ _
    | quoted =>
      rw [scan_quoted_cons]
      split_ifs <;> exact ih _ _ _
    | afterQuote =>
      rw [scan_afterQuote_cons]
      split_ifs <;> first | exact hbreak | exact ih _ _ _

end Scan

def Bare (cs : List Char) : Prop := needsQuotes cs = false

theorem bare_cons {c : Char} {cs : List Char} :
    Bare (c :: cs) ↔ (c ≠ ',' ∧ c ≠ '"' ∧ isLineBreak c = false) ∧ Bare cs := by
  simp [Bare, needsQuotes, isLineBreak, and_assoc]

def Place.IsStart (p : Place) : Prop := p = .line ∨ p = .field

theorem scan_plain {cs : List Char} (h : Bare cs) (cell : List Char) (record : List String)
    (rest : List Char) :
    scan .plain cell record (cs ++ rest) = scan .plain (cs.reverse ++ cell) record rest := by
  induction cs generalizing cell with
  | nil => rfl
  | cons c cs ih =>
    obtain ⟨⟨hcomma, hquote, hbreak⟩, hcs⟩ := bare_cons.mp h
    rw [List.cons_append, List.reverse_cons, List.append_assoc, List.singleton_append, ← ih hcs]
    simp [scan_plain_cons, hcomma, hquote, hbreak]

theorem scan_bare {p : Place} (hp : p.IsStart) {c : Char} {cs : List Char} (h : Bare (c :: cs))
    (record : List String) (rest : List Char) :
    scan p [] record (c :: cs ++ rest) = scan .plain (c :: cs).reverse record rest := by
  obtain ⟨⟨hcomma, hquote, hbreak⟩, hcs⟩ := bare_cons.mp h
  rw [List.reverse_cons, ← scan_plain hcs]
  rcases hp with rfl | rfl
  · simp [scan_line_cons, hcomma, hquote, hbreak]
  · simp [scan_field_cons, hcomma, hquote, hbreak]

/-- A quoted field ends at the first quote that is not doubled. -/
theorem scan_quoted (cs cell : List Char) (record : List String) (rest : List Char) :
    scan .quoted cell record (doubleQuotes cs ++ '"' :: rest) =
      scan .afterQuote (cs.reverse ++ cell) record rest := by
  induction cs generalizing cell with
  | nil => simp [doubleQuotes, scan_quoted_cons]
  | cons c cs ih =>
    rw [List.reverse_cons, List.append_assoc, List.singleton_append, ← ih]
    by_cases hc : c = '"'
    · simp [doubleQuotes, hc, scan_quoted_cons, scan_afterQuote_cons, isLineBreak]
    · simp [doubleQuotes, hc, scan_quoted_cons]

/-- Reading a written cell leaves a reader with the cell, at the start only if nothing was
written. -/
theorem scan_cellChars {p : Place} (hp : p.IsStart) (cell : String) (record : List String)
    (rest : List Char) : ∃ q, (q = p ∧ cellChars cell = [] ∨ q = .plain ∨ q = .afterQuote) ∧
      scan p [] record (cellChars cell ++ rest) = scan q cell.toList.reverse record rest := by
  unfold cellChars
  dsimp only
  split
  · refine ⟨.afterQuote, .inr (.inr rfl), ?_⟩
    have hquoted := scan_quoted cell.toList [] record rest
    rw [List.append_nil] at hquoted
    rw [← hquoted]
    rcases hp with rfl | rfl
    · simp [scan_line_cons, isLineBreak]
    · simp [scan_field_cons, isLineBreak]
  next hbare =>
    have hbare : Bare cell.toList := by simpa [Bare] using hbare
    cases hcs : cell.toList with
    | nil => exact ⟨p, .inl ⟨rfl, rfl⟩, rfl⟩
    | cons c cs => exact ⟨.plain, .inr (.inl rfl), scan_bare hp (hcs ▸ hbare) record rest⟩

theorem closeField_reverse (cell : String) (record : List String) :
    closeField cell.toList.reverse record = cell :: record := by
  simp [closeField]

theorem scan_cell_comma {p : Place} (hp : p.IsStart) (cell : String) (record : List String)
    (rest : List Char) :
    scan p [] record (cellChars cell ++ ',' :: rest) = scan .field [] (cell :: record) rest := by
  obtain ⟨q, hq, hscan⟩ := scan_cellChars hp cell record (',' :: rest)
  rw [hscan, ← closeField_reverse cell record]
  rcases hq with ⟨rfl, _⟩ | rfl | rfl
  · rcases hp with rfl | rfl <;> rfl
  · rfl
  · rfl

theorem scan_cell_break {p : Place} {cell : String}
    (hp : p = .field ∨ p = .line ∧ cellChars cell ≠ []) (record : List String)
    (rest : List Char) :
    scan p [] record (cellChars cell ++ '\n' :: rest) =
      (cell :: record).reverse :: scan .line [] [] rest := by
  have hstart : p.IsStart := hp.elim .inr fun h => .inl h.1
  obtain ⟨q, hq, hscan⟩ := scan_cellChars hstart cell record ('\n' :: rest)
  rw [hscan, ← closeField_reverse cell record]
  rcases hq with ⟨rfl, hempty⟩ | rfl | rfl
  · rcases hp with rfl | ⟨rfl, hne⟩
    · rfl
    · exact absurd hempty hne
  · rfl
  · rfl

def lineChars (record : List String) : List Char :=
  ((record.map cellChars).intersperse [',']).flatten

theorem lineChars_cons (first second : String) (rest : List String) :
    lineChars (first :: second :: rest) = cellChars first ++ ',' :: lineChars (second :: rest) := by
  simp [lineChars]

theorem scan_lineChars {p : Place} {record : List String} (hne : record ≠ [])
    (hp : p = .field ∨ p = .line ∧ lineChars record ≠ []) (done : List String) (rest : List Char) :
    scan p [] done (lineChars record ++ '\n' :: rest) =
      (done.reverse ++ record) :: scan .line [] [] rest := by
  induction record generalizing p done with
  | nil => exact absurd rfl hne
  | cons first record ih =>
    cases record with
    | nil =>
      have hp' : p = .field ∨ p = .line ∧ cellChars first ≠ [] := by simpa [lineChars] using hp
      have hline : lineChars [first] = cellChars first := by simp [lineChars]
      rw [hline, scan_cell_break hp', List.reverse_cons]
    | cons second record =>
      have hstart : p.IsStart := hp.elim .inr fun h => .inl h.1
      rw [lineChars_cons, List.append_assoc, List.cons_append, scan_cell_comma hstart,
        ih (by simp) (.inl rfl)]
      simp

theorem recordChars_of_ne_nil {record : List String} (h : lineChars record ≠ []) :
    recordChars record = lineChars record ++ ['\n'] := by
  have hfull : ¬ (lineChars record).isEmpty = true := by simpa using h
  change (if (lineChars record).isEmpty then ['"', '"'] else lineChars record) ++ ['\n'] = _
  rw [if_neg hfull]

theorem recordChars_of_eq_nil {record : List String} (h : lineChars record = []) :
    recordChars record = ['"', '"', '\n'] := by
  change (if (lineChars record).isEmpty then ['"', '"'] else lineChars record) ++ ['\n'] = _
  rw [h]
  rfl

theorem scan_recordChars {record : List String} (hne : record ≠ []) (rest : List Char) :
    scan .line [] [] (recordChars record ++ rest) = record :: scan .line [] [] rest := by
  by_cases hline : lineChars record = []
  · have hempty : record = [""] := by
      cases record with
      | nil => exact absurd rfl hne
      | cons first record =>
        cases record with
        | nil =>
          have hcell : cellChars first = [] := by simpa [lineChars] using hline
          unfold cellChars at hcell
          dsimp only at hcell
          split at hcell
          · simp at hcell
          · rw [String.toList_eq_nil_iff.mp hcell]
        | cons second record => simp [lineChars_cons] at hline
    rw [hempty]
    rfl
  · rw [recordChars_of_ne_nil hline, List.append_assoc, List.singleton_append,
      scan_lineChars hne (.inr ⟨rfl, hline⟩)]
    simp

theorem scan_flatMap {records : List (List String)} (h : ∀ r ∈ records, r ≠ []) :
    scan .line [] [] (records.flatMap recordChars) = records := by
  induction records with
  | nil => rfl
  | cons r records ih =>
    rw [List.forall_mem_cons] at h
    rw [List.flatMap_cons, scan_recordChars h.1, ih h.2]

def Unmarked (header : List String) : Prop :=
  ∀ cell ∈ header.head?, cell.toList.head? ≠ some '\uFEFF'

instance : DecidablePred Unmarked := fun header =>
  inferInstanceAs (Decidable (∀ cell ∈ header.head?, cell.toList.head? ≠ some '\uFEFF'))

theorem cellChars_head (cell : String) : (cellChars cell).head? = cell.toList.head? ∨
    (cellChars cell).head? = some '"' := by
  unfold cellChars
  dsimp only
  split
  · exact .inr rfl
  · exact .inl rfl

theorem recordChars_head {header : List String} (hne : header ≠ []) (h : Unmarked header) :
    (recordChars header).head? ≠ some '\uFEFF' := by
  obtain ⟨first, rest, rfl⟩ := List.exists_cons_of_ne_nil hne
  have hfirst : (cellChars first).head? ≠ some '\uFEFF' := by
    rcases cellChars_head first with hcell | hcell
    · rw [hcell]
      exact h first rfl
    · rw [hcell]
      decide
  by_cases hline : lineChars (first :: rest) = []
  · rw [recordChars_of_eq_nil hline]
    decide
  · rw [recordChars_of_ne_nil hline]
    cases rest with
    | nil =>
      have hchars : lineChars [first] = cellChars first := by simp [lineChars]
      rw [hchars] at hline ⊢
      obtain ⟨c, cs, hcell⟩ := List.exists_cons_of_ne_nil hline
      rw [hcell] at hfirst ⊢
      exact hfirst
    | cons second rest =>
      rw [lineChars_cons]
      cases hcell : cellChars first with
      | nil => simp
      | cons c cs =>
        rw [hcell] at hfirst
        exact hfirst

theorem ofText_render {header : List String} {rows : List (List String)} (hne : header ≠ [])
    (h : Unmarked header) (hrows : ∀ r ∈ rows, r ≠ []) :
    ofText (render (header :: rows)) = ⟨header, rows⟩ := by
  have hall : ∀ r ∈ header :: rows, r ≠ [] := List.forall_mem_cons.mpr ⟨hne, hrows⟩
  have hrecords : records (render (header :: rows)) = header :: rows := by
    have hscan := scan_flatMap hall
    have hhead := recordChars_head hne h
    unfold records render
    rw [String.toList_ofList]
    split
    next cs hmark =>
      rw [List.flatMap_cons] at hmark
      obtain ⟨c, more, hchars⟩ : ∃ c more, recordChars header = c :: more :=
        List.exists_cons_of_ne_nil (by simp [recordChars])
      rw [hchars, List.cons_append, List.cons.injEq] at hmark
      rw [hchars, hmark.1] at hhead
      exact absurd rfl hhead
    next => exact hscan
  rw [ofText, hrecords]

theorem ofText_mark {header : List String} {rows : List (List String)} (hne : header ≠ [])
    (hrows : ∀ r ∈ rows, r ≠ []) :
    ofText ("\uFEFF" ++ render (header :: rows)) = ⟨header, rows⟩ := by
  have hscan := scan_flatMap (List.forall_mem_cons.mpr ⟨hne, hrows⟩)
  have hchars : ("\uFEFF" ++ render (header :: rows)).toList =
      '\uFEFF' :: (header :: rows).flatMap recordChars := by
    rw [render, String.toList_append, String.toList_ofList, String.toList_ofList]
    rfl
  have hrecords : records ("\uFEFF" ++ render (header :: rows)) = header :: rows := by
    rw [records, hchars]
    exact hscan
  rw [ofText, hrecords]

theorem records_ne_nil (text : String) : ∀ r ∈ records text, r ≠ [] := by
  unfold records
  split <;> exact scan_ne_nil _ _ _ _

theorem ofText_rows_ne_nil (text : String) : ∀ r ∈ (ofText text).rows, r ≠ [] := by
  have h := records_ne_nil text
  unfold ofText
  split
  next => simp
  next header rows hrecords =>
    rw [hrecords, List.forall_mem_cons] at h
    exact h.2

end TelescopePointing.Table
