import Mathlib.Data.List.ReduceOption
import TelescopePointing.Proofs.Decimal.Cell
import TelescopePointing.Proofs.Observation.Store

namespace TelescopePointing

namespace StoredObservation

section Number

variable {α : Type} [NumberText α] {row : List (String × String)} {column : String}

def ReadsBack (x : α) : Prop := NumberText.ofCell? (NumberText.cell x) = some x

theorem number_eq {x : α} (hcell : cell? row column = .ok (some (NumberText.cell x)))
    (hx : ReadsBack x) : number row column = .ok x := by
  have htext : requiredCell row column = .ok (NumberText.cell x) := by
    rw [requiredCell, hcell]
    rfl
  rw [number, htext]
  simp only [bind, Except.bind]
  rw [hx]

theorem optionalNumber_eq {x : Option α} (hempty : NumberText.ofCell? "" = (none : Option α))
    (hcell : cell? row column = .ok (some (optionalCell x))) (hx : ∀ y ∈ x, ReadsBack y) :
    optionalNumber row column = .ok x := by
  rw [optionalNumber, hcell]
  simp only [bind, Except.bind]
  cases x with
  | none => rfl
  | some y =>
    have hy := hx y rfl
    have hne : NumberText.cell y ≠ "" := by
      intro htext
      rw [ReadsBack, htext, hempty] at hy
      cases hy
    rw [optionalCell]
    split
    next htext => cases htext
    next htext => exact absurd (Option.some.inj htext) hne
    next text _ htext =>
      obtain rfl := Option.some.inj htext
      rw [hy]

end Number

def measuredAngles {α : Type} (o : StoredObservation α) : List (Option α) :=
  [o.astrometricAscension, o.astrometricDeclination, o.centroidAscension, o.centroidDeclination]

def numbers {α : Type} (o : StoredObservation α) : List α :=
  [o.catalogAscension, o.catalogDeclination, o.temperature, o.pressure, o.humidity] ++
    o.measuredAngles.reduceOption

/-- No text of an observation has blanks around it, an image has a name, and the number of the entry
is not too large. -/
structure Storable {α : Type} (o : StoredObservation α) : Prop where
  id : o.id < UInt64.size
  date : Text.trim o.date = o.date
  image : ∀ name ∈ o.image, name ≠ "" ∧ Text.trim name = name

variable {o : StoredObservation Float} (h : o.Storable)
include h

theorem ofRow_cells (hnumbers : ∀ x ∈ o.numbers, ReadsBack x) :
    ofRow (columns.zip o.cells) = .ok o := by
  have hempty : NumberText.ofCell? "" = (none : Option Float) := rfl
  have hnumber : ∀ column (x : Float),
      cell? (columns.zip o.cells) column = .ok (some (NumberText.cell x)) → x ∈ o.numbers →
        number (columns.zip o.cells) column = .ok x :=
    fun _ _ hcell hx => number_eq hcell (hnumbers _ hx)
  have hoptional : ∀ column (x : Option Float),
      cell? (columns.zip o.cells) column = .ok (some (optionalCell x)) →
        x ∈ o.measuredAngles → optionalNumber (columns.zip o.cells) column = .ok x := by
    rintro _ x hcell hx
    refine optionalNumber_eq hempty hcell fun y hy => hnumbers y (List.mem_append_right _ ?_)
    rw [List.reduceOption_mem_iff, ← Option.mem_def.mp hy]
    exact hx
  have hid : requiredCell (columns.zip o.cells) "nml_id" = .ok (toString o.id) := rfl
  have hdate : requiredCell (columns.zip o.cells) "dt_utc" = .ok o.date := rfl
  have himage : cell? (columns.zip o.cells) "image_fn" = .ok (some (o.image.getD "")) := rfl
  have hname : (some (o.image.getD "")).filter (· != "") = o.image := by
    cases hsome : o.image with
    | none => rfl
    | some name => simp [(h.image name hsome).1]
  unfold ofRow
  simp only [hid, hdate, himage, hname, identifier?_digits, if_pos h.id, bind, Except.bind,
    hnumber "cat_ra" o.catalogAscension rfl (by simp [numbers]),
    hnumber "cat_dc" o.catalogDeclination rfl (by simp [numbers]),
    hnumber "temperature" o.temperature rfl (by simp [numbers]),
    hnumber "pressure" o.pressure rfl (by simp [numbers]),
    hnumber "humidity" o.humidity rfl (by simp [numbers]),
    hoptional "astr_ra" o.astrometricAscension rfl (by simp [measuredAngles]),
    hoptional "astr_dc" o.astrometricDeclination rfl (by simp [measuredAngles]),
    hoptional "sxtr_ra" o.centroidAscension rfl (by simp [measuredAngles]),
    hoptional "sxtr_dc" o.centroidDeclination rfl (by simp [measuredAngles])]
  rfl

theorem trim_cells : o.cells.map Text.trim = o.cells := by
  have hoptional : ∀ x : Option Float, Text.trim (optionalCell x) = optionalCell x := by
    intro x
    cases x with
    | none => rfl
    | some x => exact Decimal.trim_cell x
  have himage : Text.trim (o.image.getD "") = o.image.getD "" := by
    cases hsome : o.image with
    | none => rfl
    | some name => exact (h.image name hsome).2
  simp only [cells, List.map_cons, List.map_nil, Decimal.trim_toString, Decimal.trim_cell,
    hoptional, h.date, himage]

end StoredObservation

namespace ObservationFile

open StoredObservation

theorem trim_columns : columns.map Text.trim = columns := by decide

theorem readRow_cells {t : Table} (ht : t.header = columns) {o : StoredObservation Float}
    (h : o.Storable) (hnumbers : ∀ x ∈ o.numbers, ReadsBack x) (path : String) :
    readRow path t o.cells = .ok o := by
  have hfits : t.fits o.cells = true := by
    rw [Table.fits, ht]
    rfl
  rw [readRow, if_pos hfits, ht, trim_columns, trim_cells h, ofRow_cells h hnumbers]

end ObservationFile

end TelescopePointing
