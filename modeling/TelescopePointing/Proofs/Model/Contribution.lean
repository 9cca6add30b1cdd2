import TelescopePointing.Proofs.Model.Affine
import TelescopePointing.Sky.Position

namespace TelescopePointing

open Scalar

/-- The parameters whose names are kept; the others are zero. -/
def masked (keep : String → Bool) (names : List String) (p : List ℝ) : List ℝ :=
  List.zipWith (fun name x => if keep name then x else 0) names p

theorem Bearing.of_eq (longitude latitude : ℝ) : Bearing.of longitude latitude =
    ⟨Real.sin longitude, Real.cos longitude, Real.sin latitude, Real.cos latitude,
      Real.sin (2 * longitude), Real.cos (2 * longitude)⟩ := by
  simp only [of, real_sin, real_cos, real_two]

section Terms

variable {names : List String} {p : List ℝ}

theorem getD_masked (h : p.length = names.length) (keep : String → Bool) (i : Nat) :
    (masked keep names p).getD i 0 = if keep (names.getD i "") then p.getD i 0 else 0 := by
  by_cases hi : i < names.length
  · simp [masked, List.getD_eq_getElem?_getD, hi, h]
  · simp [masked, List.getD_eq_getElem?_getD, hi, h]

theorem total_masked {terms : List (Term ℝ)} (hterms : ∀ t ∈ terms, t.Linear)
    (h : p.length = names.length) (keep : String → Bool) (b : Bearing ℝ) :
    Term.total (masked keep names p) b terms =
      Term.total p b (terms.filter fun t => keep (names.getD t.place "")) := by
  rw [Term.total_eq_sum, Term.total_eq_sum]
  induction terms with
  | nil => rfl
  | cons t terms ih =>
    rw [List.forall_mem_cons] at hterms
    have hvalue : t.value (masked keep names p) b =
        if keep (names.getD t.place "") then t.value p b else 0 := by
      rw [Term.value, real_zero, getD_masked h, Term.value, real_zero, hterms.1]
      split
      · exact (hterms.1 _ b).symm
      · rw [zero_mul]
    rw [List.map_cons, List.sum_cons, ih hterms.2, hvalue, List.filter_cons]
    split
    · rw [List.map_cons, List.sum_cons]
    · rw [zero_add]

/-- A mask and the opposite one share out what linear terms make of a list of parameters. -/
theorem total_masked_add {terms : List (Term ℝ)} (hterms : ∀ t ∈ terms, t.Linear)
    (h : p.length = names.length) (keep : String → Bool) (b : Bearing ℝ) :
    Term.total (masked keep names p) b terms +
        Term.total (masked (fun name => !keep name) names p) b terms = Term.total p b terms := by
  rw [total_masked hterms h, total_masked hterms h, Term.total_eq_sum, Term.total_eq_sum,
    Term.total_eq_sum, ← List.sum_append, ← List.map_append]
  exact ((List.filter_append_perm _ terms).map _).sum_eq

end Terms

def AxisTerms.named (terms : AxisTerms ℝ) (parameterNames names : List String) : AxisTerms ℝ :=
  let isNamed : Term ℝ → Bool := fun t => names.contains (parameterNames.getD t.place "")
  ⟨terms.longitude.filter isNamed, terms.latitude.filter isNamed⟩

namespace PointingModel

variable (m : PointingModel ℝ)

def offsets (p : List ℝ) (place : SkyPosition ℝ) : ℝ × ℝ :=
  (m.longitudeOffset p place.longitude place.latitude,
    m.latitudeOffset p place.longitude place.latitude)

theorem offsets_ofTerms (name tag : String) (frame : FitFrame) (names : List String)
    (terms : AxisTerms ℝ) (p : List ℝ) (place : SkyPosition ℝ) :
    (ofTerms name tag frame names terms).offsets p place =
      let b := Bearing.of place.longitude place.latitude
      ((terms.longitude.map fun t => t.effect (p.getD t.place 0) b).sum,
        (terms.latitude.map fun t => t.effect (p.getD t.place 0) b).sum) := by
  have hvalue : ∀ b, Term.value p b = fun t => t.effect (p.getD t.place 0) b := by
    intro b
    funext t
    rw [Term.value, real_zero]
  simp only [offsets, ofTerms, Term.total_eq_sum, hvalue]

def parameter (p : List ℝ) (name : String) : ℝ := p.getD (m.parameterNames.idxOf name) 0

def only (names : List String) (p : List ℝ) : List ℝ :=
  masked (fun name => names.contains name) m.parameterNames p

def without (names : List String) (p : List ℝ) : List ℝ :=
  masked (fun name => !names.contains name) m.parameterNames p

/-- The part of the offsets that is due to the parameters of some names: what they amount to when
all others are zero, and what they add to the offsets of the others. -/
structure Contributes (names : List String) (part : List ℝ → SkyPosition ℝ → ℝ × ℝ) : Prop where
  alone : ∀ p place, p.length = m.parameterNames.length →
    m.offsets (m.only names p) place = part p place
  added : ∀ p place, p.length = m.parameterNames.length →
    m.offsets p place = part p place + m.offsets (m.without names p) place

/-- What the parameters of some names contribute to a sum of linear terms is what their terms
amount to. -/
theorem contributes_ofTerms {terms : AxisTerms ℝ} (hterms : terms.Linear) (name tag : String)
    (frame : FitFrame) (parameterNames : List String) {names : List String}
    {part : List ℝ → SkyPosition ℝ → ℝ × ℝ}
    (hpart : ∀ p place, (ofTerms name tag frame parameterNames
      (terms.named parameterNames names)).offsets p place = part p place) :
    (ofTerms name tag frame parameterNames terms).Contributes names part := by
  have halone : ∀ p place, p.length = parameterNames.length →
      (ofTerms name tag frame parameterNames terms).offsets
        (masked (fun name => names.contains name) parameterNames p) place = part p place := by
    intro p place hp
    rw [← hpart]
    apply Prod.ext
    · exact total_masked hterms.1 hp _ _
    · exact total_masked hterms.2 hp _ _
  refine ⟨halone, fun p place hp => ?_⟩
  rw [← halone p place hp]
  apply Prod.ext
  · exact (total_masked_add hterms.1 hp _ _).symm
  · exact (total_masked_add hterms.2 hp _ _).symm

end PointingModel

end TelescopePointing
