import TelescopePointing.Proofs.Table.RoundTrip
import TelescopePointing.Report.Tables

namespace TelescopePointing

namespace Table

def labelled (t : Table) (i : Nat) : Option (List (String × String)) :=
  t.rows[i]?.map t.header.zip

section

variable {header : List String} {rows : List (List String)} (hne : header ≠ [])
  (hunmarked : Unmarked header) (hrows : ∀ r ∈ rows, r ≠ [])
include hne hunmarked hrows

theorem ofText_withHeader :
    ofText (render (withHeader header rows)) = if rows = [] then ⟨[], []⟩ else ⟨header, rows⟩ := by
  by_cases h : rows = []
  · rw [if_pos h, h]
    rfl
  · rw [if_neg h, withHeader, if_neg (by simpa using h), ofText_render hne hunmarked hrows]

theorem rows_ofText_withHeader : (ofText (render (withHeader header rows))).rows = rows := by
  rw [ofText_withHeader hne hunmarked hrows]
  split
  next h => exact h.symm
  next => rfl

theorem labelled_ofText_withHeader {i : Nat} {row : List String} (h : rows[i]? = some row) :
    (ofText (render (withHeader header rows))).labelled i = some (header.zip row) := by
  have hfull : rows ≠ [] := by
    rintro rfl
    cases h
  rw [ofText_withHeader hne hunmarked hrows, if_neg hfull, labelled, h]
  rfl

end

end Table

variable {α : Type} [Scalar α] [NumberText α]

namespace Report

/-- What the three tables of a report say: a row for each point with whether it is selected, a row
for each projection and a row for each parameter that has a value, all in their order. -/
structure Tabulated (r : Report α) (residual projection parameters : Table) : Prop where
  length_residual : residual.rows.length = r.points.length
  point : ∀ i p, r.points[i]? = some p → residual.labelled i = some
    [("nml_id", toString p.id),
      ("cat_lon", NumberText.cell p.catalog.longitude),
      ("cat_lat", NumberText.cell p.catalog.latitude),
      ("mnt_lon", NumberText.cell p.mount.longitude),
      ("mnt_lat", NumberText.cell p.mount.latitude),
      ("df_lon_arcsec", arcsecondCell p.longitudeDifference),
      ("df_lat_arcsec", arcsecondCell p.latitudeDifference),
      ("res_lon_arcsec", arcsecondCell p.longitudeResidual),
      ("res_lat_arcsec", arcsecondCell p.latitudeResidual),
      ("selected", if i ∈ r.selection.selected then "true" else "false"),
      ("image_fn", p.image.getD "")]
  length_projection : projection.rows.length = r.projections.length
  projection : ∀ i q, r.projections[i]? = some q → projection.labelled i = some
    [("axis", q.axis.name),
      ("mean_arcsec", NumberText.cell q.fit.mean),
      ("spread_arcsec", NumberText.cell q.fit.spread),
      ("peak", NumberText.cell q.fit.peak),
      ("status", q.fit.status.label)]
  length_parameters : parameters.rows.length =
    min r.fitted.model.parameterNames.length r.fitted.parameters.length
  parameter : ∀ i name value, r.fitted.model.parameterNames[i]? = some name →
    r.fitted.parameters[i]? = some value → parameters.labelled i = some
      [("name", name), ("value_rad", NumberText.cell value), ("value_arcsec", arcsecondCell value)]

variable (r : Report α)

theorem residualRows_getElem? {i : Nat} {p : ResidualPoint α} (h : r.points[i]? = some p) :
    r.residualRows[i]? = some (residualRow p (r.selection.selected.contains i)) := by
  rw [residualRows, List.getElem?_map, List.getElem?_zipIdx, h]
  simp

theorem tabulated : r.Tabulated
    (Table.ofText (Table.render (Table.withHeader residualHeader r.residualRows)))
    (Table.ofText (Table.render (Table.withHeader projectionHeader
      (r.projections.map projectionRow))))
    (Table.ofText (Table.render (Table.withHeader parameterHeader
      (r.fitted.namedParameters.map parameterRow)))) := by
  have hresidual : ∀ row ∈ r.residualRows, row ≠ [] := by
    intro row hrow
    obtain ⟨e, -, rfl⟩ := List.mem_map.mp hrow
    exact List.cons_ne_nil _ _
  have hprojection : ∀ row ∈ r.projections.map projectionRow, row ≠ [] :=
    List.forall_mem_map.mpr fun _ _ => List.cons_ne_nil _ _
  have hparameter : ∀ row ∈ r.fitted.namedParameters.map parameterRow, row ≠ [] :=
    List.forall_mem_map.mpr fun _ _ => List.cons_ne_nil _ _
  constructor
  case length_residual =>
    rw [Table.rows_ofText_withHeader (by decide) (by decide) hresidual]
    simp [residualRows]
  case point =>
    intro i p hp
    rw [Table.labelled_ofText_withHeader (by decide) (by decide) hresidual
      (r.residualRows_getElem? hp)]
    simp [residualHeader, residualRow]
  case length_projection =>
    rw [Table.rows_ofText_withHeader (by decide) (by decide) hprojection, List.length_map]
  case projection =>
    intro i q hq
    have hrow : (r.projections.map projectionRow)[i]? = some (projectionRow q) := by
      rw [List.getElem?_map, hq]
      rfl
    rw [Table.labelled_ofText_withHeader (by decide) (by decide) hprojection hrow]
    rfl
  case length_parameters =>
    rw [Table.rows_ofText_withHeader (by decide) (by decide) hparameter, List.length_map,
      FittedModel.namedParameters, List.length_zipWith]
  case parameter =>
    intro i name value hname hvalue
    have hrow : (r.fitted.namedParameters.map parameterRow)[i]? =
        some (parameterRow ⟨name, value⟩) := by
      rw [List.getElem?_map, FittedModel.namedParameters, List.getElem?_zipWith, hname, hvalue]
      rfl
    rw [Table.labelled_ofText_withHeader (by decide) (by decide) hparameter hrow]
    rfl

end Report

end TelescopePointing
