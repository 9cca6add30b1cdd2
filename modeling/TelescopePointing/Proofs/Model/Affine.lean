import TelescopePointing.Proofs.LeastSquares.Descent
import TelescopePointing.Fit
import TelescopePointing.Model.Mounts

namespace TelescopePointing

open Scalar

namespace LeastSquares

def IsAffineForm (n : Nat) (g : List ℝ → ℝ) : Prop :=
  ∃ r : AffineForm, r.slopes.length = n ∧ ∀ p, p.length = n → g p = r.value p

namespace IsAffineForm

variable {n : Nat} {g h : List ℝ → ℝ}

theorem const (n : Nat) (c : ℝ) : IsAffineForm n fun _ => c := by
  refine ⟨⟨c, List.replicate n 0⟩, by simp, fun p _ => ?_⟩
  rw [AffineForm.value, dot_comm, dot_zeros, add_zero]

theorem coordinate (n j : Nat) (k : ℝ) : IsAffineForm n fun p => p.getD j 0 * k := by
  refine ⟨⟨0, (List.replicate n 0).set j k⟩, by simp, fun p hp => ?_⟩
  by_cases hj : j < n
  · have hl : j < (List.replicate n (0 : ℝ)).length := by simpa using hj
    have hset := dot_set p hl k
    rw [dot_zeros, List.getElem_replicate, sub_zero, zero_add] at hset
    rw [AffineForm.value, dot_comm, hset, zero_add]
  · have hout : p.length ≤ j := by omega
    dsimp only
    rw [List.getD_eq_getElem?_getD, List.getElem?_eq_none hout, Option.getD_none, zero_mul,
      List.set_eq_of_length_le (by simpa using hj), AffineForm.value, dot_comm, dot_zeros, add_zero]

theorem add (hg : IsAffineForm n g) (hh : IsAffineForm n h) :
    IsAffineForm n fun p => g p + h p := by
  obtain ⟨r, hr, hgr⟩ := hg
  obtain ⟨s, hs, hhs⟩ := hh
  refine ⟨⟨r.constant + s.constant, List.zipWith (· + ·) r.slopes s.slopes⟩, by simp [hr, hs],
    fun p hp => ?_⟩
  simp only [hgr p hp, hhs p hp, AffineForm.value, dot_add (hr.trans hs.symm)]
  ring

theorem neg (hg : IsAffineForm n g) : IsAffineForm n fun p => -g p := by
  obtain ⟨r, hr, hgr⟩ := hg
  refine ⟨⟨-r.constant, r.slopes.map (-1 * ·)⟩, by simpa using hr, fun p hp => ?_⟩
  simp only [hgr p hp, AffineForm.value, dot_map_mul]
  ring

end IsAffineForm

namespace IsAffine

variable {n : Nat} {f g : Residuals ℝ}

theorem nil (n : Nat) : IsAffine n fun _ => [] := ⟨[], by simp, by simp⟩

theorem cons {h : List ℝ → ℝ} (hh : IsAffineForm n h) (hf : IsAffine n f) :
    IsAffine n fun p => h p :: f p := by
  obtain ⟨r, hr, hhr⟩ := hh
  obtain ⟨rows, hrows, hfr⟩ := hf
  exact ⟨r :: rows, by simpa [hr] using hrows, fun p hp => by simp [hhr p hp, hfr p hp]⟩

theorem append (hf : IsAffine n f) (hg : IsAffine n g) : IsAffine n fun p => f p ++ g p := by
  obtain ⟨rows, hrows, hfr⟩ := hf
  obtain ⟨more, hmore, hgr⟩ := hg
  refine ⟨rows ++ more, ?_, fun p hp => by simp [hfr p hp, hgr p hp]⟩
  intro r hr
  exact (List.mem_append.mp hr).elim (hrows r) (hmore r)

theorem flatMap {ι : Type} {F : ι → Residuals ℝ} (hF : ∀ x, IsAffine n (F x)) (xs : List ι) :
    IsAffine n fun p => xs.flatMap fun x => F x p := by
  induction xs with
  | nil => simpa using nil n
  | cons x xs ih => simpa using (hF x).append ih

end IsAffine

end LeastSquares

open LeastSquares

def Term.Linear (t : Term ℝ) : Prop := ∀ x b, t.effect x b = x * t.effect 1 b

def AxisTerms.Linear (terms : AxisTerms ℝ) : Prop :=
  (∀ t ∈ terms.longitude, t.Linear) ∧ ∀ t ∈ terms.latitude, t.Linear

theorem AxisTerms.Linear.append {first second : AxisTerms ℝ} (h : first.Linear)
    (k : second.Linear) : (first.append second).Linear :=
  ⟨List.forall_mem_append.mpr ⟨h.1, k.1⟩, List.forall_mem_append.mpr ⟨h.2, k.2⟩⟩

theorem Term.total_eq_sum (p : List ℝ) (b : Bearing ℝ) (terms : List (Term ℝ)) :
    Term.total p b terms = (terms.map (Term.value p b)).sum := by
  cases terms with
  | nil => simp [total]
  | cons t rest => rw [total, List.map_cons, List.sum_cons, ← foldl_add, List.foldl_map]

theorem Term.Linear.isAffineForm {t : Term ℝ} (h : t.Linear) (n : Nat) (b : Bearing ℝ) :
    IsAffineForm n fun p => t.value p b := by
  have hvalue : (fun p => t.value p b) = fun p => p.getD t.place 0 * t.effect 1 b := by
    funext p
    rw [Term.value, h, real_zero]
  rw [hvalue]
  exact .coordinate n t.place _

theorem isAffineForm_total (n : Nat) (b : Bearing ℝ) {terms : List (Term ℝ)}
    (h : ∀ t ∈ terms, t.Linear) : IsAffineForm n fun p => Term.total p b terms := by
  have hfold : ∀ (ts : List (Term ℝ)) (g : List ℝ → ℝ), (∀ t ∈ ts, t.Linear) →
      IsAffineForm n g →
        IsAffineForm n fun p => ts.foldl (fun sum u => sum + u.value p b) (g p) := by
    intro ts
    induction ts with
    | nil => exact fun g _ hg => hg
    | cons t ts ih =>
      intro g ht hg
      rw [List.forall_mem_cons] at ht
      exact ih _ ht.2 (hg.add (ht.1.isAffineForm n b))
  cases terms with
  | nil => exact .const n 0.0
  | cons t ts =>
    rw [List.forall_mem_cons] at h
    exact hfold ts _ h.2 (h.1.isAffineForm n b)

theorem isAffine_residuals {terms : AxisTerms ℝ} (h : terms.Linear) (name tag : String)
    (frame : FitFrame) (names : List String) (n : Nat) (offsets : List (RawOffset ℝ)) :
    IsAffine n (ModelFit.residuals (.ofTerms name tag frame names terms) offsets) := by
  refine IsAffine.flatMap (fun o => ?_) offsets
  have hlongitude := isAffineForm_total n (.of o.longitude o.latitude) h.1
  have hlatitude := isAffineForm_total n (.of o.longitude o.latitude) h.2
  refine .cons ?_ (.cons ?_ (.nil n))
  · simp only [PointingModel.longitudeResidual, PointingModel.ofTerms, sub_eq_add_neg]
    exact (IsAffineForm.const n _).add hlongitude.neg
  · simp only [PointingModel.latitudeResidual, PointingModel.ofTerms, sub_eq_add_neg]
    exact (IsAffineForm.const n _).add hlatitude.neg

theorem AltAzimuth.linear_terms : (AltAzimuth.terms (α := ℝ)).Linear := by
  constructor <;> simp only [AltAzimuth.terms, List.forall_mem_cons, Term.Linear] <;>
    refine ⟨?_, ?_, ?_, ?_, ?_, by simp⟩ <;> intro x b <;> ring

theorem AltAzimuth.linear_harmonicTerms : (AltAzimuth.harmonicTerms (α := ℝ)).Linear := by
  constructor <;> simp only [AltAzimuth.harmonicTerms, List.forall_mem_cons, Term.Linear] <;>
    refine ⟨?_, ?_, by simp⟩ <;> intro x b <;> ring

theorem Equatorial.linear_terms (siteLatitude : ℝ) : (Equatorial.terms siteLatitude).Linear := by
  constructor <;> simp only [Equatorial.terms, List.forall_mem_cons, Term.Linear]
  · refine ⟨?_, ?_, ?_, ?_, ?_, ?_, ?_, by simp⟩ <;> intro x b <;> ring
  · refine ⟨?_, ?_, ?_, ?_, ?_, by simp⟩ <;> intro x b <;> ring

end TelescopePointing
