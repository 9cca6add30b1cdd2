import TelescopePointing.Proofs.Scalar.Real

namespace TelescopePointing

/-- A real number, or nothing where an operation had no value. -/
inductive PartialReal where
  | undefined
  | of (x : ℝ)

namespace PartialReal

def bind : PartialReal → (ℝ → PartialReal) → PartialReal
  | undefined, _ => undefined
  | of x, f => f x

def map (f : ℝ → ℝ) (x : PartialReal) : PartialReal := x.bind fun a => of (f a)

def map₂ (f : ℝ → ℝ → ℝ) (x y : PartialReal) : PartialReal :=
  x.bind fun a => y.bind fun b => of (f a b)

open Classical in
noncomputable def guard (p : Prop) (x : ℝ) : PartialReal := if p then of x else undefined

theorem guard_pos {p : Prop} (h : p) (x : ℝ) : guard p x = of x := if_pos h

theorem guard_neg {p : Prop} (h : ¬p) (x : ℝ) : guard p x = undefined := if_neg h

/-- Nothing can be said of a number that is undefined. -/
def Compares (r : ℝ → ℝ → Prop) : PartialReal → PartialReal → Prop
  | of x, of y => r x y
  | _, _ => False

/-- Exact arithmetic that keeps account of domains. Quotients and remainders by zero, roots of
negative numbers, tangents of right angles, arcs of sines beyond one and powers of what is not
positive have no value, and neither has an operation on what has none. -/
noncomputable instance instScalar : Scalar PartialReal where
  add := map₂ (· + ·)
  sub := map₂ (· - ·)
  mul := map₂ (· * ·)
  div x y := x.bind fun a => y.bind fun b => guard (b ≠ 0) (a / b)
  neg := map (-·)
  ofScientific m s e := of (OfScientific.ofScientific m s e)
  lt := Compares (· < ·)
  le := Compares (· ≤ ·)
  beq x y := @decide (Compares (· = ·) x y) (Classical.propDecidable _)
  decideLT _ _ := Classical.propDecidable _
  decideLE _ _ := Classical.propDecidable _
  ofInt n := of n
  pi := of Real.pi
  sin := map Real.sin
  cos := map Real.cos
  tan x := x.bind fun a => guard (Real.cos a ≠ 0) (Real.tan a)
  asin x := x.bind fun a => guard (a ∈ Set.Icc (-1) 1) (Real.arcsin a)
  atan2 := map₂ Scalar.atan2
  exp := map Real.exp
  sqrt x := x.bind fun a => guard (0 ≤ a) (√a)
  pow x y := x.bind fun a => y.bind fun b => guard (0 < a) (a ^ b)
  abs := map fun a => |a|
  floor := map fun a => ⌊a⌋
  modulo x y := x.bind fun a => y.bind fun b => guard (b ≠ 0) (Scalar.modulo a b)
  toNat
    | of x => ⌊x⌋₊
    | undefined => 0
  isFinite
    | of _ => true
    | undefined => false

instance instNumberText [NumberText ℝ] : NumberText PartialReal where
  plain
    | of x => NumberText.plain x
    | undefined => "NaN"
  fixed places
    | of x => NumberText.fixed places x
    | undefined => "NaN"
  cell
    | of x => NumberText.cell x
    | undefined => "NaN"
  ofCell? text := (NumberText.ofCell? text).map of

section Lift

open Scalar

variable {x y : ℝ}

@[simp] theorem of_scientific (m : Nat) (s : Bool) (e : Nat) :
    (OfScientific.ofScientific m s e : PartialReal) = of (OfScientific.ofScientific m s e) := rfl

@[simp] theorem of_ofInt (n : Int) : (Scalar.ofInt n : PartialReal) = of (Scalar.ofInt n) := rfl

@[simp] theorem of_pi : (Scalar.pi : PartialReal) = of Scalar.pi := rfl

@[simp] theorem of_add : of x + of y = of (x + y) := rfl

@[simp] theorem of_sub : of x - of y = of (x - y) := rfl

@[simp] theorem of_mul : of x * of y = of (x * y) := rfl

@[simp] theorem of_neg : -of x = of (-x) := rfl

@[simp] theorem of_div (h : y ≠ 0) : of x / of y = of (x / y) := guard_pos h _

theorem div_zero (x : PartialReal) : x / of 0 = undefined := by
  cases x with
  | undefined => rfl
  | of x => exact guard_neg (not_not.mpr rfl) _

@[simp] theorem of_sin : sin (of x) = of (sin x) := rfl

@[simp] theorem of_cos : cos (of x) = of (cos x) := rfl

theorem of_tan (h : Real.cos x ≠ 0) : tan (of x) = of (tan x) := guard_pos h _

theorem tan_eq_undefined (h : Real.cos x = 0) : tan (of x) = undefined :=
  guard_neg (not_not.mpr h) _

@[simp] theorem of_atan2 : atan2 (of x) (of y) = of (atan2 x y) := rfl

@[simp] theorem of_sqrt (h : 0 ≤ x) : sqrt (of x) = of (sqrt x) := guard_pos h _

theorem of_pow (h : 0 < x) : pow (of x) (of y) = of (pow x y) := guard_pos h _

@[simp] theorem of_abs : Scalar.abs (of x) = of (Scalar.abs x) := rfl

@[simp] theorem of_modulo (h : y ≠ 0) : modulo (of x) (of y) = of (modulo x y) := guard_pos h _

@[simp] theorem of_lt : of x < of y ↔ x < y := Iff.rfl

@[simp] theorem of_le : of x ≤ of y ↔ x ≤ y := Iff.rfl

@[simp] theorem of_beq : (of x == of y) = (x == y) := by
  have hof : (of x == of y) = true ↔ x = y := @decide_eq_true_iff _ (Classical.propDecidable _)
  rw [Bool.eq_iff_iff, hof, beq_iff_eq]

@[simp] theorem of_isFinite : isFinite (of x) = true := rfl

@[simp] theorem of_max : Scalar.max (of x) (of y) = of (Scalar.max x y) := by
  simp only [Scalar.max, of_lt, of_beq]
  split <;> rfl

@[simp] theorem of_clamp {lo hi : ℝ} : clamp (of lo) (of hi) (of x) = of (clamp lo hi x) := by
  simp only [clamp, of_lt]
  split
  · rfl
  · split <;> rfl

/-- The longer leg divides the others only when it is not zero, and then it is positive. -/
@[simp] theorem of_hypot : hypot (of x) (of y) = of (hypot x y) := by
  have hnonneg : ∀ a : ℝ, 0 ≤ square a := mul_self_nonneg
  simp only [hypot, of_abs, of_max, of_isFinite, real_isFinite, of_beq, of_scientific]
  by_cases hzero : (Scalar.max (Scalar.abs x) (Scalar.abs y) == (0.0 : ℝ)) = true
  · simp only [hzero, Bool.not_true, Bool.or_self, if_true, Bool.false_eq_true, if_false]
  · have hlonger : Scalar.max (Scalar.abs x) (Scalar.abs y) ≠ 0 := by
      rwa [beq_iff_eq, real_zero] at hzero
    simp only [hzero, Bool.not_true, Bool.or_self, if_false, Bool.false_eq_true]
    rw [of_div hlonger, of_div hlonger, square, of_mul, square, of_mul, of_add, of_sqrt, of_mul]
    · rfl
    · exact add_nonneg (hnonneg _) (hnonneg _)

end Lift

section Undefined

variable (x : PartialReal)

@[simp] theorem undefined_add : undefined + x = undefined := rfl

@[simp] theorem add_undefined : x + undefined = undefined := by cases x <;> rfl

@[simp] theorem undefined_sub : undefined - x = undefined := rfl

@[simp] theorem sub_undefined : x - undefined = undefined := by cases x <;> rfl

@[simp] theorem undefined_mul : undefined * x = undefined := rfl

@[simp] theorem mul_undefined : x * undefined = undefined := by cases x <;> rfl

@[simp] theorem undefined_div : undefined / x = undefined := rfl

@[simp] theorem abs_undefined : Scalar.abs undefined = undefined := rfl

@[simp] theorem not_lt_undefined : ¬ x < undefined := by cases x <;> exact id

@[simp] theorem not_undefined_le : ¬ undefined ≤ x := by cases x <;> exact id

@[simp] theorem undefined_beq : (undefined == x) = false := by
  cases x <;> exact @decide_eq_false _ (Classical.propDecidable _) id

end Undefined

end PartialReal

end TelescopePointing
