import Mathlib.Analysis.SpecialFunctions.Complex.Arg
import Mathlib.Analysis.SpecialFunctions.Pow.Real
import Mathlib.Analysis.SpecialFunctions.Trigonometric.Inverse
import TelescopePointing.Decimal.Numeral
import TelescopePointing.Decimal.Rounding
import TelescopePointing.LeastSquares.Symmetric
import TelescopePointing.Proofs.Scalar.Order

namespace TelescopePointing.Scalar

/-- Exact arithmetic, in which every number is defined and finite. -/
noncomputable instance instReal : Scalar ℝ where
  toBEq := instBEqOfDecidableEq
  decideLT := inferInstance
  decideLE := inferInstance
  ofInt n := n
  pi := Real.pi
  sin := Real.sin
  cos := Real.cos
  tan := Real.tan
  asin := Real.arcsin
  atan2 y x := Complex.arg ⟨x, y⟩
  exp := Real.exp
  sqrt := Real.sqrt
  pow x y := x ^ y
  abs x := |x|
  floor x := ⌊x⌋
  modulo x y := x - y * ⌊x / y⌋
  toNat x := ⌊x⌋₊
  isFinite _ := true

instance : LawfulOrder ℝ where
  lt_irrefl := fun _ h => h.false
  lt_trans := fun h k => h.trans k
  le_of_lt := fun h => h.le
  le_self := fun _ => le_rfl

instance : LawfulLE ℝ where
  le_trans := fun h k => h.trans k
  le_total := fun _ _ => le_total _ _

@[simp] theorem real_zero : (0.0 : ℝ) = 0 := by norm_num

@[simp] theorem real_one : (1.0 : ℝ) = 1 := by norm_num

@[simp] theorem real_two : (2.0 : ℝ) = 2 := by norm_num

/-- The smallest literals have too many digits to be compared by evaluation. -/
theorem scientific_pos {m : Nat} (h : 0 < m) (e : Nat) :
    0 < (OfScientific.ofScientific m true e : ℝ) := by
  have hrat : 0 < Rat.ofScientific m true e := by
    rw [Rat.ofScientific_true_def, Rat.mkRat_eq_div]
    positivity
  exact NNRat.cast_pos.mpr hrat

@[simp] theorem real_pi : (pi : ℝ) = Real.pi := rfl

@[simp] theorem real_sin (x : ℝ) : sin x = Real.sin x := rfl

@[simp] theorem real_cos (x : ℝ) : cos x = Real.cos x := rfl

@[simp] theorem real_sqrt (x : ℝ) : sqrt x = √x := rfl

@[simp] theorem real_abs (x : ℝ) : abs x = |x| := rfl

@[simp] theorem real_isFinite (x : ℝ) : isFinite x = true := rfl

theorem real_ofNat (n : Nat) : (ofNat n : ℝ) = n := Int.cast_natCast n

theorem real_modulo (x y : ℝ) : modulo x y = x - y * ⌊x / y⌋ := rfl

@[simp] theorem real_max (x y : ℝ) : Scalar.max x y = x ⊔ y := by
  rcases lt_or_ge x y with h | h
  · simp [Scalar.max, h, h.le]
  · simp [Scalar.max, not_lt.mpr h, h]

theorem clamp_mem {lo hi : ℝ} (h : lo ≤ hi) (x : ℝ) : clamp lo hi x ∈ Set.Icc lo hi := by
  rw [clamp]
  split
  · exact Set.left_mem_Icc.mpr h
  · split
    · exact Set.right_mem_Icc.mpr h
    next hlow hhigh => exact ⟨not_lt.mp hlow, not_lt.mp hhigh⟩

theorem clamp_of_mem {lo hi x : ℝ} (h : x ∈ Set.Icc lo hi) : clamp lo hi x = x := by
  rw [clamp, if_neg (not_lt.mpr h.1), if_neg (not_lt.mpr h.2)]

theorem real_fract_of_nonneg {x : ℝ} (h : 0 ≤ x) : Scalar.fract x = x - ⌊x⌋ := by
  have hx : ¬ x < 0.0 := not_lt.mpr (by rwa [real_zero])
  rw [Scalar.fract, trunc, if_neg hx]
  rfl

/-- The part of a negative number behind its point counts down from it. -/
theorem real_fract_of_neg {x : ℝ} (h : x < 0) : Scalar.fract x = x - ⌈x⌉ := by
  have hx : x < 0.0 := by rwa [real_zero]
  have hfloor : (floor (-x) : ℝ) = -(⌈x⌉ : ℝ) := by
    rw [← Int.cast_neg, ← Int.floor_neg]
    rfl
  rw [Scalar.fract, trunc, if_pos hx, hfloor]
  ring

@[simp] theorem real_hypot (x y : ℝ) : hypot x y = √(x * x + y * y) := by
  by_cases h : |x| ⊔ |y| = 0
  · have hx : x = 0 := abs_eq_zero.mp (le_antisymm (h ▸ le_sup_left) (abs_nonneg x))
    have hy : y = 0 := abs_eq_zero.mp (le_antisymm (h ▸ le_sup_right) (abs_nonneg y))
    simp [hypot, hx, hy]
  · have hlonger : 0 ≤ |x| ⊔ |y| := (abs_nonneg x).trans le_sup_left
    have hscaled : hypot x y = (|x| ⊔ |y|) *
        √(x / (|x| ⊔ |y|) * (x / (|x| ⊔ |y|)) + y / (|x| ⊔ |y|) * (y / (|x| ⊔ |y|))) := by
      simp [hypot, square, h]
    rw [hscaled, ← Real.sqrt_sq hlonger, ← Real.sqrt_mul (sq_nonneg _), Real.sqrt_sq hlonger]
    congr 1
    field_simp

theorem square_neg_sub_neg (x y : ℝ) : square (-x - -y) = square (x - y) := by
  rw [square, square, neg_sub_neg, ← neg_sub, neg_mul_neg]

theorem foldl_add (x : ℝ) (xs : List ℝ) : xs.foldl (· + ·) x = x + xs.sum := by
  induction xs generalizing x with
  | nil => simp
  | cons y ys ih => rw [List.foldl_cons, ih, List.sum_cons, add_assoc]

@[simp] theorem real_sum (xs : List ℝ) : sum xs = xs.sum := by
  rw [sum, foldl_add, real_zero, zero_add]

@[simp] theorem dot_nil_left (ys : List ℝ) : dot [] ys = 0 := by simp [dot]

@[simp] theorem dot_nil_right (xs : List ℝ) : dot xs [] = 0 := by simp [dot]

@[simp] theorem dot_cons (x y : ℝ) (xs ys : List ℝ) :
    dot (x :: xs) (y :: ys) = x * y + dot xs ys := by
  simp [dot]

theorem dot_comm (xs ys : List ℝ) : dot xs ys = dot ys xs := by
  rw [dot, dot, List.zipWith_comm]
  simp only [mul_comm]

theorem dot_map_mul (k : ℝ) (xs ys : List ℝ) : dot (xs.map (k * ·)) ys = k * dot xs ys := by
  induction xs generalizing ys with
  | nil => simp
  | cons x xs ih =>
    cases ys with
    | nil => simp
    | cons y ys => simp only [List.map_cons, dot_cons, ih]; ring

theorem dot_add {xs ys : List ℝ} (h : xs.length = ys.length) (zs : List ℝ) :
    dot (List.zipWith (· + ·) xs ys) zs = dot xs zs + dot ys zs := by
  induction xs generalizing ys zs with
  | nil => simp [List.length_eq_zero_iff.mp h.symm]
  | cons x xs ih =>
    obtain ⟨y, ys, rfl⟩ := List.exists_cons_of_length_eq_add_one h.symm
    cases zs with
    | nil => simp
    | cons z zs =>
      have hl : xs.length = ys.length := by simpa using h
      simp only [List.zipWith_cons_cons, dot_cons, ih hl]
      ring

theorem dot_self_nonneg (xs : List ℝ) : 0 ≤ dot xs xs := by
  induction xs with
  | nil => simp
  | cons x xs ih => rw [dot_cons]; exact add_nonneg (mul_self_nonneg x) ih

/-- Eight lanes keep the total of what they have taken up. -/
theorem laneSums_spec (lanes xs : List ℝ) (h : lanes.length = 8) :
    (laneSums lanes xs).1.length = 8 ∧
      (laneSums lanes xs).1.sum + (laneSums lanes xs).2.sum = lanes.sum + xs.sum := by
  fun_induction laneSums lanes xs with
  | case1 lanes x₀ x₁ x₂ x₃ x₄ x₅ x₆ x₇ rest ih =>
    have hl : (List.zipWith (· + ·) lanes [x₀, x₁, x₂, x₃, x₄, x₅, x₆, x₇]).length = 8 := by
      simp [h]
    obtain ⟨hlen, hsum⟩ := ih hl
    refine ⟨hlen, hsum.trans ?_⟩
    match lanes, h with
    | [a₀, a₁, a₂, a₃, a₄, a₅, a₆, a₇], _ =>
      simp only [List.zipWith_cons_cons, List.zipWith_nil_right, List.sum_cons, List.sum_nil]
      ring
  | case2 lanes rest hrest => exact ⟨h, rfl⟩

theorem sum_halves (lanes : List ℝ) (h : lanes.length = 8) :
    (List.zipWith (· + ·) (lanes.take 4) (lanes.drop 4)).sum = lanes.sum := by
  match lanes, h with
  | [a₀, a₁, a₂, a₃, a₄, a₅, a₆, a₇], _ =>
    simp only [List.take_succ_cons, List.take_zero, List.drop_succ_cons, List.drop_zero,
      List.zipWith_cons_cons, List.zipWith_nil_right, List.sum_cons, List.sum_nil]
    ring

theorem laneSum_eq_sum (xs : List ℝ) : laneSum xs = xs.sum := by
  obtain ⟨hlen, hsum⟩ := laneSums_spec (List.replicate 8 0.0) xs (by simp)
  simp only [laneSum, foldl_add, real_sum, sum_halves _ hlen, hsum]
  simp

@[simp] theorem laneDot_eq_dot (xs ys : List ℝ) : laneDot xs ys = dot xs ys := by
  rw [laneDot, laneSum_eq_sum, dot, real_sum]

@[simp] theorem normSquared_eq_dot (xs : List ℝ) : normSquared xs = dot xs xs :=
  laneDot_eq_dot xs xs

end TelescopePointing.Scalar

namespace TelescopePointing

/-- Sixteen digits after the point stand for the shortest text of a real number, which need not have
any. -/
@[reducible]
noncomputable def roundedText : NumberText ℝ where
  plain x := digits 16 x
  fixed := digits
  cell x := digits 16 x
  ofCell? text := (Decimal.Numeral.ofChars? text.toList).bind fun
    | .finite negative s => some ((if negative then -1 else 1) * s.digits * 10 ^ s.exponent)
    | _ => none
where
  digits (places : Nat) (x : ℝ) : String :=
    let body := Decimal.fixedPlaces places (round (|x| * 10 ^ places)).natAbs (10 ^ places)
    if x < 0 then "-" ++ body else body

end TelescopePointing
