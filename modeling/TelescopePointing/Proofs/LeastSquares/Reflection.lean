import TelescopePointing.Proofs.Scalar.Real
import TelescopePointing.Proofs.LeastSquares.Shape

namespace TelescopePointing

open Scalar

def AreSigns (signs : List ℝ) : Prop := ∀ s ∈ signs, s * s = 1

/-- A vector with some of its components turned round. -/
def reflect (signs p : List ℝ) : List ℝ := List.zipWith (· * ·) signs p

section Reflect

variable {signs : List ℝ}

@[simp] theorem reflect_cons (s : ℝ) (signs : List ℝ) (x : ℝ) (p : List ℝ) :
    reflect (s :: signs) (x :: p) = s * x :: reflect signs p := rfl

@[simp] theorem length_reflect {p : List ℝ} (h : p.length = signs.length) :
    (reflect signs p).length = signs.length := by
  simp [reflect, h]

@[simp] theorem reflect_isEmpty {p : List ℝ} (h : p.length = signs.length) :
    (reflect signs p).isEmpty = p.isEmpty := by
  rw [Bool.eq_iff_iff, List.isEmpty_iff_length_eq_zero, List.isEmpty_iff_length_eq_zero,
    length_reflect h, h]

theorem reflect_add (signs p d : List ℝ) :
    List.zipWith (· + ·) (reflect signs p) (reflect signs d) =
      reflect signs (List.zipWith (· + ·) p d) := by
  induction signs generalizing p d with
  | nil => simp [reflect]
  | cons s signs ih =>
    cases p with
    | nil => simp [reflect]
    | cons x p =>
      cases d with
      | nil => simp [reflect]
      | cons y d => simp only [reflect_cons, List.zipWith_cons_cons, ih, mul_add]

theorem reflect_neg (signs d : List ℝ) :
    (reflect signs d).map (- ·) = reflect signs (d.map (- ·)) := by
  simp only [reflect, List.map_zipWith, List.zipWith_map_right, mul_neg]

theorem reflect_set (signs p : List ℝ) (j : Nat) (hj : j < signs.length) (y : ℝ) :
    (reflect signs p).set j (signs[j] * y) = reflect signs (p.set j y) := by
  refine List.ext_getElem (by simp [reflect]) fun i hi hi' => ?_
  simp only [reflect, List.getElem_set, List.getElem_zipWith]
  split
  next h => simp [h]
  next => rfl

theorem dot_reflect (hsigns : AreSigns signs) {p q : List ℝ} (hp : p.length = signs.length) :
    dot (reflect signs p) (reflect signs q) = dot p q := by
  induction signs generalizing p q with
  | nil => simp [reflect, List.length_eq_zero_iff.mp hp]
  | cons s signs ih =>
    obtain ⟨x, p, rfl⟩ := List.exists_cons_of_length_eq_add_one hp
    cases q with
    | nil => simp [reflect]
    | cons y q =>
      have hs : s * s = 1 := hsigns s List.mem_cons_self
      rw [reflect_cons, reflect_cons, dot_cons, dot_cons,
        ih (fun t ht => hsigns t (List.mem_cons_of_mem _ ht)) (by simpa using hp)]
      linear_combination x * y * hs

theorem abs_sign_mul {s : ℝ} (h : s * s = 1) (x : ℝ) : Scalar.abs (s * x) = Scalar.abs x := by
  rcases mul_self_eq_one_iff.mp h with rfl | rfl <;> simp

theorem map_abs_reflect (hsigns : AreSigns signs) {p : List ℝ} (hp : p.length = signs.length) :
    (reflect signs p).map Scalar.abs = p.map Scalar.abs := by
  refine List.ext_getElem (by simp [reflect, hp]) fun i hi _ => ?_
  simp only [reflect, List.getElem_map, List.getElem_zipWith]
  exact abs_sign_mul (hsigns _ (List.getElem_mem _)) _

theorem norm_reflect (hsigns : AreSigns signs) {p : List ℝ} (hp : p.length = signs.length) :
    Scalar.norm (reflect signs p) = Scalar.norm p := by
  rw [Scalar.norm, Scalar.norm, normSquared_eq_dot, normSquared_eq_dot, dot_reflect hsigns hp]

end Reflect

namespace LowerColumns

noncomputable def reflected : List ℝ → LowerColumns ℝ → LowerColumns ℝ
  | s :: signs, column d below rest =>
    column d ((reflect signs below).map (s * ·)) (reflected signs rest)
  | _, m => m

variable {signs : List ℝ}

theorem diagonal_reflected (signs : List ℝ) (m : LowerColumns ℝ) :
    (m.reflected signs).diagonal = m.diagonal := by
  fun_induction reflected signs m with
  | case1 s signs d below rest ih => simp [diagonal, ih]
  | case2 => rfl

theorem addDiagonal_reflected (signs : List ℝ) (m : LowerColumns ℝ) (xs : List ℝ) :
    (m.reflected signs).addDiagonal xs = (m.addDiagonal xs).reflected signs := by
  fun_induction reflected signs m generalizing xs with
  | case1 s signs d below rest ih =>
    cases xs with
    | nil => rfl
    | cons x xs => simp only [addDiagonal, reflected, ih]
  | case2 signs m h =>
    cases m with
    | empty => simp [addDiagonal, reflected]
    | column d below rest =>
      cases signs with
      | nil => simp [reflected]
      | cons s signs => exact (h s signs d below rest rfl rfl).elim

theorem subtractSquare_reflected (hsigns : AreSigns signs) {s : ℝ} (hs : s * s = 1)
    {m : LowerColumns ℝ} (hl : signs.length = m.size) (xs : List ℝ) :
    (m.reflected signs).subtractSquare ((reflect signs xs).map (s * ·)) =
      (m.subtractSquare xs).reflected signs := by
  induction m generalizing signs xs with
  | empty =>
    obtain rfl := List.length_eq_zero_iff.mp hl
    rfl
  | column d below rest ih =>
    obtain ⟨t, signs, rfl⟩ := List.exists_cons_of_length_eq_add_one hl
    have ht : t * t = 1 := hsigns t List.mem_cons_self
    cases xs with
    | nil => rfl
    | cons x xs =>
      rw [reflect_cons, List.map_cons, reflected, subtractSquare, subtractSquare, reflected,
        ih (fun u hu => hsigns u (List.mem_cons_of_mem _ hu)) (by simpa [size] using hl)]
      have hdiagonal : d - s * (t * x) * (s * (t * x)) = d - x * x := by
        linear_combination -(x * x) * hs - s * s * x * x * ht
      have hbelow : List.zipWith (fun b y => b - y * (s * (t * x)))
          ((reflect signs below).map (t * ·)) ((reflect signs xs).map (s * ·)) =
            (reflect signs (List.zipWith (fun b y => b - y * x) below xs)).map (t * ·) := by
        refine List.ext_getElem (by simp [reflect]; omega) fun i _ hi => ?_
        obtain ⟨_, _, _⟩ : i < signs.length ∧ i < below.length ∧ i < xs.length := by
          simpa [reflect] using hi
        simp only [reflect, List.getElem_zipWith, List.getElem_map]
        linear_combination -(signs[i] * xs[i] * t * x) * hs
      rw [hdiagonal, hbelow]

theorem cholesky?_reflected (hsigns : AreSigns signs) {m : LowerColumns ℝ}
    (hl : signs.length = m.size) :
    (m.reflected signs).cholesky? = m.cholesky?.map (reflected signs) := by
  induction m using elimination_induction generalizing signs with
  | empty =>
    obtain rfl := List.length_eq_zero_iff.mp hl
    simp [reflected]
  | column d below rest ih =>
    obtain ⟨s, signs, rfl⟩ := List.exists_cons_of_length_eq_add_one hl
    have hs : s * s = 1 := hsigns s List.mem_cons_self
    have hrest : AreSigns signs := fun u hu => hsigns u (List.mem_cons_of_mem _ hu)
    have hlen : signs.length = rest.size := by simpa [size] using hl
    rw [reflected, cholesky?_column, cholesky?_column]
    by_cases hd : (0.0 : ℝ) < d
    · have hscaled : ((reflect signs below).map (s * ·)).map (· / Scalar.sqrt d) =
          (reflect signs (below.map (· / Scalar.sqrt d))).map (s * ·) := by
        refine List.ext_getElem (by simp [reflect]) fun i _ _ => ?_
        simp only [reflect, List.getElem_zipWith, List.getElem_map]
        ring
      rw [if_pos hd, if_pos hd, hscaled, subtractSquare_reflected hrest hs hlen,
        ih _ hrest (by rw [size_subtractSquare]; exact hlen), Option.map_map, Option.map_map]
      rfl
    · rw [if_neg hd, if_neg hd, Option.map_none]

theorem forward_reflected (hsigns : AreSigns signs) {factor : LowerColumns ℝ}
    (hl : signs.length = factor.size) (ys : List ℝ) :
    (factor.reflected signs).forward (reflect signs ys) = reflect signs (factor.forward ys) := by
  induction factor generalizing signs ys with
  | empty =>
    obtain rfl := List.length_eq_zero_iff.mp hl
    rfl
  | column d below rest ih =>
    obtain ⟨s, signs, rfl⟩ := List.exists_cons_of_length_eq_add_one hl
    have hs : s * s = 1 := hsigns s List.mem_cons_self
    cases ys with
    | nil => rfl
    | cons y ys =>
      have hleft : List.zipWith (fun z b => z - s * y / d * b) (reflect signs ys)
          ((reflect signs below).map (s * ·)) =
            reflect signs (List.zipWith (fun z b => z - y / d * b) ys below) := by
        refine List.ext_getElem (by simp [reflect]; omega) fun i _ hi => ?_
        obtain ⟨_, _, _⟩ : i < signs.length ∧ i < ys.length ∧ i < below.length := by
          simpa [reflect] using hi
        simp only [reflect, List.getElem_zipWith, List.getElem_map]
        linear_combination -(y / d * signs[i] * below[i]) * hs
      simp only [reflect_cons, reflected, forward]
      rw [hleft, ih (fun u hu => hsigns u (List.mem_cons_of_mem _ hu)) (by simpa [size] using hl),
        mul_div_assoc]

theorem backward_reflected (hsigns : AreSigns signs) {factor : LowerColumns ℝ}
    (hfull : factor.Full) (hl : signs.length = factor.size) (ys : List ℝ) :
    (factor.reflected signs).backward (reflect signs ys) = reflect signs (factor.backward ys) := by
  induction factor generalizing signs ys with
  | empty =>
    obtain rfl := List.length_eq_zero_iff.mp hl
    rfl
  | column d below rest ih =>
    obtain ⟨s, signs, rfl⟩ := List.exists_cons_of_length_eq_add_one hl
    have hrest : AreSigns signs := fun u hu => hsigns u (List.mem_cons_of_mem _ hu)
    have hlen : signs.length = rest.size := by simpa [size] using hl
    cases ys with
    | nil => rfl
    | cons y ys =>
      simp only [reflect_cons, reflected, backward, laneDot_eq_dot]
      rw [ih hrest hfull.2 hlen, dot_map_mul, dot_reflect hrest (hfull.1.trans hlen.symm)]
      congr 1
      ring

theorem solveFactored_reflected (hsigns : AreSigns signs) {factor : LowerColumns ℝ}
    (hfull : factor.Full) (hl : signs.length = factor.size) (ys : List ℝ) :
    (factor.reflected signs).solveFactored (reflect signs ys) =
      reflect signs (factor.solveFactored ys) := by
  rw [solveFactored, forward_reflected hsigns hl, backward_reflected hsigns hfull hl, solveFactored]

end LowerColumns

end TelescopePointing
