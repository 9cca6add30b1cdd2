import TelescopePointing.Proofs.LeastSquares.Mirror
import TelescopePointing.Proofs.Model.Registry
import TelescopePointing.Proofs.Sky.Convention

namespace TelescopePointing

open LeastSquares

/-- The tilts of the azimuth axis are turned round with the azimuth; nothing else is. -/
def tiltSign (name : String) : ℝ := if name = "AN" ∨ name = "AW" then -1 else 1

def tiltSigns (names : List String) : List ℝ := names.map tiltSign

theorem areSigns_tiltSigns (names : List String) : AreSigns (tiltSigns names) := by
  intro s hs
  obtain ⟨name, _, rfl⟩ := List.mem_map.mp hs
  unfold tiltSign
  split <;> norm_num

@[simp] theorem length_tiltSigns (names : List String) :
    (tiltSigns names).length = names.length := by
  simp [tiltSigns]

/-- The same place with the longitude counted from the opposite side. -/
noncomputable def Bearing.turned (b : Bearing ℝ) : Bearing ℝ :=
  { b with sinLongitude := -b.sinLongitude, cosLongitude := -b.cosLongitude }

theorem Bearing.of_opposite {longitude longitude' : ℝ} (h : Angle.Opposite longitude longitude')
    (latitude : ℝ) : Bearing.of longitude' latitude = (Bearing.of longitude latitude).turned := by
  simp only [Bearing.of, turned, Scalar.real_sin, Scalar.real_cos, Scalar.real_two, h.sin, h.cos,
    h.sin_double, h.cos_double]

theorem getD_reflect {signs p : List ℝ} (h : p.length = signs.length) (i : Nat) :
    (reflect signs p).getD i 0 = signs.getD i 1 * p.getD i 0 := by
  by_cases hi : i < signs.length
  · simp [reflect, List.getD_eq_getElem?_getD, hi, h]
  · simp [reflect, List.getD_eq_getElem?_getD, hi, h]

def Term.Balanced (signs : List ℝ) (t : Term ℝ) : Prop :=
  ∀ x b, t.effect (signs.getD t.place 1 * x) b.turned = t.effect x b

def AxisTerms.Balanced (signs : List ℝ) (terms : AxisTerms ℝ) : Prop :=
  (∀ t ∈ terms.longitude, t.Balanced signs) ∧ ∀ t ∈ terms.latitude, t.Balanced signs

theorem AxisTerms.Balanced.append {signs : List ℝ} {first second : AxisTerms ℝ}
    (h : first.Balanced signs) (k : second.Balanced signs) :
    (first.append second).Balanced signs :=
  ⟨List.forall_mem_append.mpr ⟨h.1, k.1⟩, List.forall_mem_append.mpr ⟨h.2, k.2⟩⟩

section Balanced

variable {signs p : List ℝ}

theorem Term.Balanced.value {t : Term ℝ} (h : t.Balanced signs) (hp : p.length = signs.length)
    (b : Bearing ℝ) : t.value (reflect signs p) b.turned = t.value p b := by
  rw [Term.value, Term.value, Scalar.real_zero, getD_reflect hp, h]

theorem total_reflect {terms : List (Term ℝ)} (h : ∀ t ∈ terms, t.Balanced signs)
    (hp : p.length = signs.length) (b : Bearing ℝ) :
    Term.total (reflect signs p) b.turned terms = Term.total p b terms := by
  have hfold : ∀ (ts : List (Term ℝ)) (x : ℝ), (∀ t ∈ ts, t.Balanced signs) →
      ts.foldl (fun sum u => sum + u.value (reflect signs p) b.turned) x =
        ts.foldl (fun sum u => sum + u.value p b) x := by
    intro ts
    induction ts with
    | nil => exact fun _ _ => rfl
    | cons t ts ih =>
      intro x ht
      rw [List.forall_mem_cons] at ht
      rw [List.foldl_cons, List.foldl_cons, ht.1.value hp, ih _ ht.2]
  cases terms with
  | nil => rfl
  | cons t ts =>
    rw [List.forall_mem_cons] at h
    rw [Term.total, Term.total, h.1.value hp, hfold ts _ h.2]

end Balanced

/-- A model in which the convention of the azimuth shows in the tilts of the axis only. -/
structure PointingModel.Tilted (m : PointingModel ℝ) : Prop where
  longitude : ∀ {p : List ℝ} {x y : ℝ} (z : ℝ), p.length = m.parameterNames.length →
    Angle.Opposite x y →
      m.longitudeOffset (reflect (tiltSigns m.parameterNames) p) y z = m.longitudeOffset p x z
  latitude : ∀ {p : List ℝ} {x y : ℝ} (z : ℝ), p.length = m.parameterNames.length →
    Angle.Opposite x y →
      m.latitudeOffset (reflect (tiltSigns m.parameterNames) p) y z = m.latitudeOffset p x z

theorem tilted_ofTerms {names : List String} {terms : AxisTerms ℝ}
    (h : terms.Balanced (tiltSigns names)) (name tag : String) (frame : FitFrame) :
    (PointingModel.ofTerms name tag frame names terms).Tilted where
  longitude z hp hxy := by
    simp only [PointingModel.ofTerms, Bearing.of_opposite hxy]
    exact total_reflect h.1 (hp.trans (length_tiltSigns names).symm) _
  latitude z hp hxy := by
    simp only [PointingModel.ofTerms, Bearing.of_opposite hxy]
    exact total_reflect h.2 (hp.trans (length_tiltSigns names).symm) _

namespace AltAzimuth

theorem balanced_terms (more : List String) :
    (terms (α := ℝ)).Balanced (tiltSigns (parameters ++ more)) := by
  constructor <;> simp only [terms, List.forall_mem_cons, Term.Balanced] <;>
    refine ⟨?_, ?_, ?_, ?_, ?_, by simp⟩ <;> intro x b <;>
    simp [tiltSigns, tiltSign, parameters, Bearing.turned]

theorem balanced_harmonicTerms :
    (harmonicTerms (α := ℝ)).Balanced (tiltSigns (parameters ++ harmonicParameters)) := by
  constructor <;> simp only [harmonicTerms, List.forall_mem_cons, Term.Balanced] <;>
    refine ⟨?_, ?_, by simp⟩ <;> intro x b <;>
    simp [tiltSigns, tiltSign, parameters, harmonicParameters, Bearing.turned]

theorem tilted_basic : (basic (α := ℝ)).Tilted := by
  have h := balanced_terms []
  rw [List.append_nil] at h
  exact tilted_ofTerms h _ _ _

theorem tilted_harmonic : (harmonic (α := ℝ)).Tilted :=
  tilted_ofTerms ((balanced_terms harmonicParameters).append balanced_harmonicTerms) _ _ _

end AltAzimuth

end TelescopePointing
