import TelescopePointing.Fit
import TelescopePointing.Proofs.LeastSquares.Undefined
import TelescopePointing.Proofs.Model.Registry
import TelescopePointing.Proofs.Sky.Partial

namespace TelescopePointing

open PartialReal LeastSquares

def Bearing.lift (b : Bearing ℝ) : Bearing PartialReal :=
  ⟨.of b.sinLongitude, .of b.cosLongitude, .of b.sinLatitude, .of b.cosLatitude, .of b.sinDouble,
    .of b.cosDouble⟩

namespace Term

def Extends (b : Bearing ℝ) (t' : Term PartialReal) (t : Term ℝ) : Prop :=
  t'.place = t.place ∧ ∀ x, t'.effect (of x) b.lift = of (t.effect x b)

theorem Extends.value {b : Bearing ℝ} {t' : Term PartialReal} {t : Term ℝ} (h : t'.Extends b t)
    (p : List ℝ) : t'.value (p.map of) b.lift = of (t.value p b) := by
  rw [Term.value, h.1, of_scientific, List.getD_eq_getElem?_getD, List.getElem?_map,
    Option.getD_map, h.2, Term.value, List.getD_eq_getElem?_getD]

theorem total_of {b : Bearing ℝ} {terms' : List (Term PartialReal)} {terms : List (Term ℝ)}
    (h : List.Forall₂ (Extends b) terms' terms) (p : List ℝ) :
    total (p.map of) b.lift terms' = of (total p b terms) := by
  cases h with
  | nil => rfl
  | @cons t' t rest' rest ht hrest =>
    rw [total, total, ht.value p]
    generalize t.value p b = sum
    induction hrest generalizing sum with
    | nil => rfl
    | cons ht _ ih => rw [List.foldl_cons, List.foldl_cons, ht.value p, of_add, ih]

theorem total_undefined {p : List PartialReal} {b : Bearing PartialReal}
    {terms : List (Term PartialReal)} {t : Term PartialReal} (ht : t ∈ terms)
    (h : t.value p b = undefined) : total p b terms = undefined := by
  obtain ⟨u, rest, rfl⟩ := List.exists_cons_of_ne_nil (List.ne_nil_of_mem ht)
  rw [total, ← List.foldl_map (f := Term.value p b) (g := (· + ·))]
  refine Scalar.foldl_add_undefined ?_
  rcases List.mem_cons.mp ht with rfl | ht
  · exact .inl h
  · exact .inr (List.mem_map.mpr ⟨t, ht, h⟩)

end Term

def AxisTerms.Extends (b : Bearing ℝ) (terms' : AxisTerms PartialReal) (terms : AxisTerms ℝ) :
    Prop :=
  List.Forall₂ (Term.Extends b) terms'.longitude terms.longitude ∧
    List.Forall₂ (Term.Extends b) terms'.latitude terms.latitude

theorem AxisTerms.Extends.append {b : Bearing ℝ} {first' second' : AxisTerms PartialReal}
    {first second : AxisTerms ℝ} (h : first'.Extends b first) (k : second'.Extends b second) :
    (first'.append second').Extends b (first.append second) :=
  ⟨List.rel_append h.1 k.1, List.rel_append h.2 k.2⟩

namespace AltAzimuth

/-- The flexure that goes with the cotangent of the altitude is the only quotient. -/
theorem terms_extends {b : Bearing ℝ} (h : b.sinLatitude ≠ 0) :
    (terms (α := PartialReal)).Extends b terms := by
  constructor <;> repeat' refine .cons ⟨rfl, fun _ => rfl⟩ ?_
  · exact .nil
  · exact .cons ⟨rfl, fun _ => of_div h⟩ .nil

theorem harmonicTerms_extends (b : Bearing ℝ) :
    (harmonicTerms (α := PartialReal)).Extends b harmonicTerms := by
  constructor <;> repeat' refine .cons ⟨rfl, fun _ => rfl⟩ ?_
  all_goals exact .nil

end AltAzimuth

theorem Equatorial.terms_extends (siteLatitude : ℝ) (b : Bearing ℝ) :
    (terms (of siteLatitude)).Extends b (terms siteLatitude) := by
  constructor <;> repeat' refine .cons ⟨rfl, fun _ => rfl⟩ ?_
  all_goals exact .nil

namespace PointingModel

/-- The formulas of a model that follows altitudes have a value everywhere but on the horizon, where
the cotangent of the altitude has none. -/
def Covers (m : PointingModel ℝ) (position : SkyPosition ℝ) : Prop :=
  m.frame = .horizon → Real.sin position.latitude ≠ 0

structure ExtendsAt (x y : ℝ) (m' : PointingModel PartialReal) (m : PointingModel ℝ) : Prop where
  longitude (p : List ℝ) : m'.longitudeOffset (p.map of) (of x) (of y) = of (m.longitudeOffset p x y)
  latitude (p : List ℝ) : m'.latitudeOffset (p.map of) (of x) (of y) = of (m.latitudeOffset p x y)

theorem extendsAt_ofTerms {x y : ℝ} {terms' : AxisTerms PartialReal} {terms : AxisTerms ℝ}
    (h : terms'.Extends (.of x y) terms) (name tag : String) (frame : FitFrame)
    (names : List String) : ExtendsAt x y (ofTerms name tag frame names terms')
      (ofTerms name tag frame names terms) :=
  ⟨Term.total_of h.1, Term.total_of h.2⟩

theorem exists_extends {siteLatitude : ℝ} {m : PointingModel ℝ}
    (hm : m ∈ mountModels siteLatitude) :
    ∃ m', ModelRegistry.standard.create m.name ⟨of siteLatitude⟩ = .ok m' ∧
      m'.parameterNames = m.parameterNames ∧ ∀ position, m.Covers position →
        ExtendsAt position.longitude position.latitude m' m := by
  simp only [mountModels, List.mem_cons, List.not_mem_nil, or_false] at hm
  rcases hm with rfl | rfl | rfl
  · exact ⟨_, ModelRegistry.create_basic _, rfl, fun _ h =>
      extendsAt_ofTerms (AltAzimuth.terms_extends (h rfl)) _ _ _ _⟩
  · exact ⟨_, ModelRegistry.create_harmonic _, rfl, fun _ h => extendsAt_ofTerms
      ((AltAzimuth.terms_extends (h rfl)).append (AltAzimuth.harmonicTerms_extends _)) _ _ _ _⟩
  · exact ⟨_, ModelRegistry.create_equatorial _, rfl, fun _ _ =>
      extendsAt_ofTerms (Equatorial.terms_extends siteLatitude _) _ _ _ _⟩

variable {siteLatitude : PartialReal} {m : PointingModel PartialReal}

theorem latitudeOffset_undefined (hm : m ∈ mountModels siteLatitude)
    (hframe : m.frame = .horizon) {y : ℝ} (hy : Real.sin y = 0) (p : List PartialReal)
    (x : PartialReal) : m.latitudeOffset p x (of y) = undefined := by
  have hsin : (Bearing.of x (of y)).sinLatitude = of 0 := congrArg of hy
  have hflexure : (⟨7, fun x b => x * b.cosLatitude / b.sinLatitude⟩ : Term PartialReal).value p
      (.of x (of y)) = undefined := by
    simp only [Term.value, hsin, PartialReal.div_zero]
  simp only [mountModels, List.mem_cons, List.not_mem_nil, or_false] at hm
  rcases hm with rfl | rfl | rfl
  · change Term.total p _ AltAzimuth.terms.latitude = undefined
    exact Term.total_undefined (by simp [AltAzimuth.terms]) hflexure
  · change Term.total p _ (AltAzimuth.terms.append AltAzimuth.harmonicTerms).latitude = undefined
    exact Term.total_undefined (by simp [AltAzimuth.terms, AxisTerms.append]) hflexure
  · cases hframe

end PointingModel

def StarPair.lift (p : StarPair ℝ) : StarPair PartialReal :=
  ⟨p.catalog.lift, p.mount.lift, p.id, p.image⟩

def RawOffset.lift (o : RawOffset ℝ) : RawOffset PartialReal :=
  ⟨.of o.longitude, .of o.latitude, .of o.longitudeDifference, .of o.latitudeDifference⟩

theorem StarPair.rawOffset_lift (p : StarPair ℝ) : p.lift.rawOffset = p.rawOffset.lift := by
  simp only [rawOffset, lift, SkyPosition.lift, of_sub, Angle.signed_of, RawOffset.lift]

structure FittedModel.Extends (fitted' : FittedModel PartialReal) (fitted : FittedModel ℝ) :
    Prop where
  parameters : fitted'.parameters = fitted.parameters.map of
  cost : fitted'.cost = of fitted.cost
  status : fitted'.status = fitted.status
  iterations : fitted'.iterations = fitted.iterations
  pointCount : fitted'.pointCount = fitted.pointCount

namespace ModelFit

variable {m' : PointingModel PartialReal} {m : PointingModel ℝ} {pairs : List (StarPair ℝ)}

theorem residuals_extends (h : ∀ p ∈ pairs,
      PointingModel.ExtendsAt p.catalog.longitude p.catalog.latitude m' m) :
    (residuals m' ((pairs.map StarPair.lift).map StarPair.rawOffset)).Extends
      (residuals m (pairs.map StarPair.rawOffset)) := by
  intro p
  simp only [residuals, List.map_map, List.flatMap_map, List.map_flatMap, Function.comp_apply,
    StarPair.rawOffset_lift]
  refine List.flatMap_congr fun q hq => ?_
  have hlongitude := (h q hq).longitude p
  have hlatitude := (h q hq).latitude p
  simp only [PointingModel.longitudeResidual, PointingModel.latitudeResidual, RawOffset.lift,
    StarPair.rawOffset, hlongitude, hlatitude, of_cos, of_mul, of_sub, List.map_cons, List.map_nil]

theorem onPairs_extends (hnames : m'.parameterNames = m.parameterNames)
    (h : ∀ p ∈ pairs, PointingModel.ExtendsAt p.catalog.longitude p.catalog.latitude m' m)
    {settings : Settings ℝ} (hdifference : 0 < settings.differenceStep) :
    (onPairs (pairs.map StarPair.lift) m' settings.lift).Extends (onPairs pairs m settings) := by
  have hstart : m'.start = m.start.map of := by
    rw [PointingModel.start, hnames, PointingModel.start, List.map_map]
    rfl
  have hminimize := minimize_lift (residuals_extends h) hdifference m.start
  rw [← hstart] at hminimize
  constructor <;> simp only [onPairs, hminimize, Result.lift, List.length_map]

variable {siteLatitude : PartialReal}

theorem residuals_lacks (hm' : m' ∈ mountModels siteLatitude) (hframe : m'.frame = .horizon)
    {q : StarPair ℝ} (hq : q ∈ pairs) (hhorizon : Real.sin q.catalog.latitude = 0) :
    ∃ k, (residuals m' ((pairs.map StarPair.lift).map StarPair.rawOffset)).Lacks k := by
  obtain ⟨before, after, rfl⟩ := List.append_of_mem hq
  refine ⟨2 * before.length + 1, fun p => ?_⟩
  have hlength : ∀ offsets : List (RawOffset PartialReal),
      (residuals m' offsets p).length = 2 * offsets.length := by
    intro offsets
    simp [residuals, List.length_flatMap, Nat.mul_comm]
  have hsplit : residuals m' (((before ++ q :: after).map StarPair.lift).map StarPair.rawOffset) p =
      residuals m' ((before.map StarPair.lift).map StarPair.rawOffset) p ++
        residuals m' (((q :: after).map StarPair.lift).map StarPair.rawOffset) p := by
    simp [residuals]
  have hoffset := PointingModel.latitudeOffset_undefined hm' hframe hhorizon p
    (of q.catalog.longitude)
  have hresidual : m'.latitudeResidual p q.lift.rawOffset.longitude q.lift.rawOffset.latitude
      q.lift.rawOffset.latitudeDifference = undefined := by
    rw [PointingModel.latitudeResidual, StarPair.rawOffset_lift]
    exact (congrArg (_ - ·) hoffset).trans (sub_undefined _)
  rw [hsplit, List.getElem?_append_right (by simp [hlength]), hlength]
  simp [residuals, hresidual]

theorem onPairs_stalls (hm' : m' ∈ mountModels siteLatitude) (hframe : m'.frame = .horizon)
    {q : StarPair ℝ} (hq : q ∈ pairs) (hhorizon : Real.sin q.catalog.latitude = 0)
    {settings : Settings ℝ} {n : Nat} (hn : n < settings.maxIterations)
    (hlimit : settings.maxDamping < settings.initialDamping * settings.dampingUp ^ (n + 1)) :
    (onPairs (pairs.map StarPair.lift) m' settings.lift).status = .stalled := by
  obtain ⟨k, hlacks⟩ := residuals_lacks hm' hframe hq hhorizon
  have hparameters : m'.start ≠ [] := by
    simp only [mountModels, List.mem_cons, List.not_mem_nil, or_false] at hm'
    rcases hm' with rfl | rfl | rfl <;> exact List.cons_ne_nil _ _
  exact minimize_stalls hlacks settings hparameters hn hlimit

end ModelFit

end TelescopePointing
