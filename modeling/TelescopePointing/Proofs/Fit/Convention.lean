import TelescopePointing.Proofs.Model.Tilt
import TelescopePointing.Report.Basic

namespace TelescopePointing

open LeastSquares

namespace PointingModel.Tilted

variable {m : PointingModel ℝ} {o o' : RawOffset ℝ} {p : List ℝ}

theorem longitudeResidual (h : m.Tilted) (ho : o.Opposite o')
    (hp : p.length = m.parameterNames.length) :
    m.longitudeResidual (reflect (tiltSigns m.parameterNames) p) o'.longitude o'.latitude
      o'.longitudeDifference =
        m.longitudeResidual p o.longitude o.latitude o.longitudeDifference := by
  simp only [PointingModel.longitudeResidual, ho.latitude, ho.longitudeDifference,
    h.longitude o.latitude hp ho.longitude]

theorem latitudeResidual (h : m.Tilted) (ho : o.Opposite o')
    (hp : p.length = m.parameterNames.length) :
    m.latitudeResidual (reflect (tiltSigns m.parameterNames) p) o'.longitude o'.latitude
      o'.latitudeDifference =
        m.latitudeResidual p o.longitude o.latitude o.latitudeDifference := by
  simp only [PointingModel.latitudeResidual, ho.latitude, ho.latitudeDifference,
    h.latitude o.latitude hp ho.longitude]

end PointingModel.Tilted

namespace ModelFit

theorem length_residuals (m : PointingModel ℝ) (offsets : List (RawOffset ℝ)) (p : List ℝ) :
    (residuals m offsets p).length = 2 * offsets.length := by
  induction offsets with
  | nil => rfl
  | cons o offsets ih =>
    simp only [residuals, List.flatMap_cons, List.length_append, List.length_cons] at ih ⊢
    rw [ih, List.length_nil]
    omega

theorem residuals_mirrors {m : PointingModel ℝ} (hm : m.Tilted)
    {offsets offsets' : List (RawOffset ℝ)}
    (ho : List.Forall₂ RawOffset.Opposite offsets offsets') :
    Mirrors (tiltSigns m.parameterNames) (.keep (2 * offsets.length)) (residuals m offsets)
      (residuals m offsets') where
  areSigns := areSigns_tiltSigns _
  length p _ := length_residuals m offsets p
  value p hp := by
    rw [length_tiltSigns] at hp
    change residuals m offsets' (reflect (tiltSigns m.parameterNames) p) = residuals m offsets p
    induction ho with
    | nil => rfl
    | cons hab _ ih =>
      simp only [residuals, List.flatMap_cons] at ih ⊢
      rw [hm.longitudeResidual hab hp, hm.latitudeResidual hab hp, ih]

theorem reflect_start (m : PointingModel ℝ) :
    reflect (tiltSigns m.parameterNames) m.start = m.start := by
  simp only [reflect, tiltSigns, PointingModel.start, List.zipWith_map, List.zipWith_self,
    Scalar.real_zero, mul_zero]

end ModelFit

/-- One fit in either convention: the tilts of the axis have opposite signs, and the rest is the
same. -/
structure FittedModel.Mirrored (f g : FittedModel ℝ) : Prop where
  model : g.model = f.model
  length : f.parameters.length = f.model.parameterNames.length
  parameters : g.parameters = reflect (tiltSigns f.model.parameterNames) f.parameters
  status : g.status = f.status
  iterations : g.iterations = f.iterations
  cost : g.cost = f.cost
  pointCount : g.pointCount = f.pointCount

namespace ModelFit

variable {m : PointingModel ℝ} {pairs pairs' : List (StarPair ℝ)}

theorem onPairs_mirrored (hm : m.Tilted) (hp : List.Forall₂ StarPair.Opposite pairs pairs')
    (settings : Settings ℝ) :
    (onPairs pairs m settings).Mirrored (onPairs pairs' m settings) := by
  have hoffsets : List.Forall₂ RawOffset.Opposite (pairs.map StarPair.rawOffset)
      (pairs'.map StarPair.rawOffset) := by
    rw [List.forall₂_map_left_iff, List.forall₂_map_right_iff]
    exact hp.imp fun _ _ h => h.rawOffset
  have hstart : m.start.length = m.parameterNames.length := by simp [PointingModel.start]
  have hmirror := minimize_mirror (residuals_mirrors hm hoffsets)
    (hstart.trans (length_tiltSigns m.parameterNames).symm) settings
  rw [reflect_start] at hmirror
  obtain ⟨x, hx, iterations, status, hresult⟩ :=
    minimize_evaluated (residuals m (pairs.map StarPair.rawOffset)) m.start settings
  unfold onPairs
  rw [hmirror]
  refine ⟨rfl, ?_, rfl, rfl, rfl, rfl, hp.length_eq.symm⟩
  rw [hresult]
  exact hx.length.trans hstart

theorem fit_mirrored (hm : m.Tilted) (hp : List.Forall₂ StarPair.Opposite pairs pairs')
    (selected : List Nat) (settings : Settings ℝ) :
    Alike (fun f g => f.model = m ∧ f.Mirrored g) (fit pairs selected m settings)
      (fit pairs' selected m settings) := by
  have hempty : ∀ {xs ys : List (StarPair ℝ)}, List.Forall₂ StarPair.Opposite xs ys →
      ys.isEmpty = xs.isEmpty := by
    intro xs ys h
    cases h <;> rfl
  have hsubset := forall₂_choose hp (validIndices pairs.length selected)
  unfold fit
  rw [hempty hp, ← hp.length_eq]
  dsimp only
  rw [hempty hsubset]
  by_cases hpairs : pairs.isEmpty = true
  · rw [if_pos hpairs, if_pos hpairs]
    exact .error _
  · rw [if_neg hpairs, if_neg hpairs]
    split
    · exact .error _
    · exact .ok ⟨rfl, onPairs_mirrored hm hsubset settings⟩

end ModelFit

structure ResidualPoint.Opposite (p q : ResidualPoint ℝ) : Prop where
  catalog : p.catalog.Opposite q.catalog
  mount : p.mount.Opposite q.mount
  longitudeDifference : q.longitudeDifference = p.longitudeDifference
  latitudeDifference : q.latitudeDifference = p.latitudeDifference
  longitudeResidual : q.longitudeResidual = p.longitudeResidual
  latitudeResidual : q.latitudeResidual = p.latitudeResidual
  id : q.id = p.id
  image : q.image = p.image

namespace ResidualPoint

theorem ofPair_opposite {f g : FittedModel ℝ} (hm : f.model.Tilted) (hf : f.Mirrored g)
    {p q : StarPair ℝ} (h : p.Opposite q) : (ofPair f p).Opposite (ofPair g q) where
  catalog := h.catalog
  mount := h.mount
  longitudeDifference := h.rawOffset.longitudeDifference
  latitudeDifference := h.rawOffset.latitudeDifference
  longitudeResidual := by
    simp only [ofPair, FittedModel.longitudeResidual, hf.model, hf.parameters]
    exact hm.longitudeResidual h.rawOffset hf.length
  latitudeResidual := by
    simp only [ofPair, FittedModel.latitudeResidual, hf.model, hf.parameters]
    exact hm.latitudeResidual h.rawOffset hf.length
  id := h.id
  image := h.image

theorem Opposite.distanceSquared {p q : ResidualPoint ℝ} (h : p.Opposite q) :
    q.distanceSquared = p.distanceSquared := by
  rw [ResidualPoint.distanceSquared, ResidualPoint.distanceSquared, h.longitudeResidual,
    h.latitudeResidual]

theorem Opposite.value {p q : ResidualPoint ℝ} (h : p.Opposite q) (a : ResidualAxis) :
    a.value q = a.value p := by
  cases a with
  | longitudeDifference => exact h.longitudeDifference
  | latitudeDifference => exact h.latitudeDifference
  | longitudeResidual => exact h.longitudeResidual
  | latitudeResidual => exact h.latitudeResidual

end ResidualPoint

theorem Selection.ofPoints_eq (points : List (ResidualPoint ℝ)) (threshold : ℝ) :
    ofPoints points threshold =
      let marked := (points.map ResidualPoint.distanceSquared).zipIdx
      { selected := (marked.filter fun e => threshold * threshold < e.1).map (·.2)
        dropped := (marked.filter fun e => !decide (threshold * threshold < e.1)).map (·.2) } := by
  simp only [ofPoints, List.zipIdx_map, List.filter_map, List.map_map]
  rfl

structure FitOutcome.Mirrored (o o' : FitOutcome ℝ) : Prop where
  tag : o'.tag = o.tag
  fitted : o.fitted.Mirrored o'.fitted
  points : List.Forall₂ ResidualPoint.Opposite o.points o'.points
  selection : o'.selection = o.selection
  projections : o'.projections = o.projections

theorem FitOutcome.ofFit_mirrored {f g : FittedModel ℝ} (hm : f.model.Tilted) (hf : f.Mirrored g)
    {pairs pairs' : List (StarPair ℝ)} (hp : List.Forall₂ StarPair.Opposite pairs pairs')
    (tag : String) (bins : Nat) (threshold : ℝ) :
    Alike Mirrored (ofFit tag pairs f bins threshold) (ofFit tag pairs' g bins threshold) := by
  have hpoints : List.Forall₂ ResidualPoint.Opposite (ResidualPoint.ofPairs pairs f)
      (ResidualPoint.ofPairs pairs' g) := by
    rw [ResidualPoint.ofPairs, ResidualPoint.ofPairs, List.forall₂_map_left_iff,
      List.forall₂_map_right_iff]
    exact hp.imp fun _ _ h => ResidualPoint.ofPair_opposite hm hf h
  have hselection : Selection.ofPoints (ResidualPoint.ofPairs pairs' g) threshold =
      Selection.ofPoints (ResidualPoint.ofPairs pairs f) threshold := by
    rw [Selection.ofPoints_eq, Selection.ofPoints_eq,
      map_eq_of_forall₂ (fun _ _ h => h.distanceSquared) hpoints]
  have hprojections : projectionsOf (ResidualPoint.ofPairs pairs' g) bins =
      projectionsOf (ResidualPoint.ofPairs pairs f) bins := by
    have harcseconds : ∀ a : ResidualAxis, a.arcseconds (ResidualPoint.ofPairs pairs' g) =
        a.arcseconds (ResidualPoint.ofPairs pairs f) := fun a =>
      map_eq_of_forall₂ (fun _ _ h => by rw [h.value a]) hpoints
    simp only [projectionsOf, harcseconds]
  unfold ofFit
  dsimp only
  rw [hselection, hprojections]
  exact (Alike.refl (fun _ => rfl) _).map fun _ _ h => ⟨rfl, hf, hpoints, rfl, h.symm⟩

end TelescopePointing
