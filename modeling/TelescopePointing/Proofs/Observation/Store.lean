import TelescopePointing.Observation.Store
import TelescopePointing.Proofs.Observation.Row

namespace TelescopePointing.ObservationFile

variable {α : Type} [NumberText α]

theorem readRow_eq_ok {path : String} {t : Table} {row : List String} {o : StoredObservation α}
    (h : readRow path t row = .ok o) : t.fits row = true ∧
      StoredObservation.ofRow ((t.header.map Text.trim).zip (row.map Text.trim)) = .ok o := by
  unfold readRow at h
  split at h
  next hfits =>
    split at h
    next o' ho =>
      obtain rfl : o' = o := by simpa using h
      exact ⟨hfits, ho⟩
    next => cases h
  next => cases h

theorem readRow_eq_error {path : String} {t : Table} {row : List String} {cause : PointingError}
    (h : (readRow path t row : Except _ (StoredObservation α)) = .error cause) :
    ∃ reason, cause = .sourceUnavailable reason := by
  unfold readRow at h
  split at h
  · split at h
    · cases h
    · cases h
      exact ⟨_, rfl⟩
  · cases h
    exact ⟨_, rfl⟩

theorem trim_idColumn : Text.trim idColumn = idColumn := by decide

theorem cell_of_readRow {path : String} {t : Table} {row : List String}
    {o : StoredObservation α} (h : readRow path t row = .ok o) {column : Nat}
    (hcolumn : t.header.idxOf? idColumn = some column) :
    ∃ cell, row[column]? = some cell ∧
      StoredObservation.identifier? (Text.trim cell) = some o.id := by
  obtain ⟨hfits, hrow⟩ := readRow_eq_ok h
  obtain ⟨text, htext, hid⟩ := StoredObservation.ofRow_id hrow
  have hlength : row.length = t.header.length := by simpa [Table.fits] using hfits
  obtain ⟨hlt, hname, _⟩ := List.idxOf?_eq_some_iff.mp hcolumn
  have hlt' : column < row.length := hlength ▸ hlt
  have hmem : (idColumn, Text.trim row[column]) ∈
      (t.header.map Text.trim).zip (row.map Text.trim) := by
    refine List.mem_iff_getElem.mpr ⟨column, by simp; omega, ?_⟩
    simp [hname, trim_idColumn]
  have hcell : Text.trim row[column] = text := by
    have honly : (idColumn, Text.trim row[column]) ∈
        ((t.header.map Text.trim).zip (row.map Text.trim)).filter fun c => c.1 == idColumn :=
      List.mem_filter.mpr ⟨hmem, beq_self_eq_true idColumn⟩
    rw [idColumn, StoredObservation.requiredCell_eq_ok htext] at honly
    simpa using honly
  exact ⟨row[column], List.getElem?_eq_getElem hlt', hcell ▸ hid⟩

theorem readRow_header {path : String} {t u : Table} (h : t.header = u.header) :
    (readRow path t : List String → Except PointingError (StoredObservation α)) =
      readRow path u := by
  funext row
  unfold readRow Table.fits Table.lengthFault
  rw [h]

theorem rows_eq_nil {path : String} {t : Table} {observations : List (StoredObservation α)}
    (hmissing : ∀ name ∈ t.header, Text.trim name ≠ idColumn)
    (hrows : t.rows.map (readRow path t) = observations.map .ok) : observations = [] := by
  cases observations with
  | nil => rfl
  | cons o observations =>
    obtain ⟨row, rows, -, hrow, -⟩ := List.map_eq_cons_iff.mp hrows
    obtain ⟨text, htext, _⟩ := StoredObservation.ofRow_id (readRow_eq_ok hrow).2
    have hmem : (idColumn, text) ∈ (t.header.map Text.trim).zip (row.map Text.trim) := by
      have honly : (idColumn, text) ∈ [(idColumn, text)] := List.mem_singleton_self _
      rw [idColumn, ← StoredObservation.requiredCell_eq_ok htext] at honly
      exact (List.mem_filter.mp honly).1
    obtain ⟨name, hname, htrim⟩ := List.mem_map.mp (List.of_mem_zip hmem).1
    exact absurd htrim (hmissing name hname)

theorem rows_of_read {d : Disk} {path text : String} (h : d.read path = .ok text) :
    (rows d path : Except PointingError (StoredRows α)) = .ok (readText path text) := by
  simp only [rows, h]

end TelescopePointing.ObservationFile

namespace TelescopePointing.ObservationStore

variable {α : Type} [NumberText α] {store : ObservationStore α} {cause : PointingError}

def IsBuiltIn (store : ObservationStore α) : Prop :=
  (∃ rows, store = ofList rows) ∨ ∃ d path, store = ObservationFile.store d path

theorem IsBuiltIn.rows_eq_error (h : store.IsBuiltIn)
    (hrows : store.rows = .error cause) : ∃ reason, cause = .sourceUnavailable reason := by
  rcases h with ⟨rows, rfl⟩ | ⟨d, path, rfl⟩
  · cases hrows
  · change ObservationFile.rows d path = _ at hrows
    unfold ObservationFile.rows at hrows
    split at hrows
    · cases hrows
    · cases hrows
    · cases hrows
      exact ⟨_, rfl⟩

theorem IsBuiltIn.row_eq_error (h : store.IsBuiltIn) {rows : StoredRows α}
    (hrows : store.rows = .ok rows) (hmem : .error cause ∈ rows) :
    ∃ reason, cause = .sourceUnavailable reason := by
  rcases h with ⟨observations, rfl⟩ | ⟨d, path, rfl⟩
  · cases hrows
    obtain ⟨o, -, ho⟩ := List.mem_map.mp hmem
    cases ho
  · change ObservationFile.rows d path = _ at hrows
    unfold ObservationFile.rows at hrows
    split at hrows
    next text _ =>
      cases hrows
      obtain ⟨row, -, hrow⟩ := List.mem_map.mp hmem
      exact ObservationFile.readRow_eq_error hrow
    next =>
      cases hrows
      cases hmem
    next => cases hrows

end TelescopePointing.ObservationStore
