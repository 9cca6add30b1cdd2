import Mathlib.Data.Int.CharZero
import Mathlib.Data.Prod.Lex
import Mathlib.Tactic.Simproc.ExistsAndEq
import TelescopePointing.LeastSquares.Symmetric
import TelescopePointing.Scalar.Binary64

namespace TelescopePointing

/-- An undefined number is one that does not equal itself. -/
def Scalar.Defined {α : Type} [Scalar α] (x : α) : Prop := (x == x) = true

/-- What the comparisons of numbers have in common whether or not some of them are undefined. -/
class Scalar.LawfulOrder (α : Type) [Scalar α] : Prop where
  lt_irrefl : ∀ x : α, ¬ x < x
  lt_trans : ∀ {x y z : α}, x < y → y < z → x < z
  le_of_lt : ∀ {x y : α}, x < y → x ≤ y
  le_self : ∀ {x : α}, Scalar.Defined x → x ≤ x

class Scalar.LawfulLess (α : Type) [Scalar α] : Prop where
  defined_of_lt : ∀ {x y : α}, x < y → Scalar.Defined x

class Scalar.LawfulLE (α : Type) [Scalar α] : Prop where
  le_trans : ∀ {x y z : α}, x ≤ y → y ≤ z → x ≤ z
  le_total : ∀ {x y : α}, Scalar.Defined x → Scalar.Defined y → x ≤ y ∨ y ≤ x

namespace Binary64

open Float.Model

abbrev Rank := ℤ ×ₗ ℤ ×ₗ ℤ

/-- The place of a decoded number in the order of all defined ones. Both zeros have one place. -/
def rank? : UnpackedFloat → Option Rank
  | .notANumber => none
  | .infinity .negative => some (toLex (-2, toLex (0, 0)))
  | .finite .negative m e _ => some (toLex (-1, toLex (-e, -m)))
  | .zero _ => some (toLex (0, toLex (0, 0)))
  | .finite .positive m e _ => some (toLex (1, toLex (e, m)))
  | .infinity .positive => some (toLex (2, toLex (0, 0)))

theorem compare_eq_lt_iff (a b : UnpackedFloat) :
    a.compare b = some .lt ↔ ∃ x ∈ rank? a, ∃ y ∈ rank? b, x < y := by
  rcases a with (_ | _) | _ | _ | ⟨_ | _, m, e, _⟩ <;>
    rcases b with (_ | _) | _ | _ | ⟨_ | _, m', e', _⟩ <;>
      dsimp only [UnpackedFloat.compare, rank?] <;>
        simp [Prod.Lex.toLex_lt_toLex, Ordering.then_eq_lt, Std.compare_eq_lt, Std.compare_eq_gt,
          Ordering.then_eq_gt]
  rfl

theorem compare_eq_eq_iff (a b : UnpackedFloat) :
    a.compare b = some .eq ↔ ∃ x ∈ rank? a, ∃ y ∈ rank? b, x = y := by
  rcases a with (_ | _) | _ | _ | ⟨_ | _, m, e, _⟩ <;>
    rcases b with (_ | _) | _ | _ | ⟨_ | _, m', e', _⟩ <;>
      dsimp only [UnpackedFloat.compare, rank?] <;>
        simp [-existsAndEq, Ordering.then_eq_eq]
  all_goals rfl

theorem lt_iff_compare (x y : Float) :
    x < y ↔ x.toModel.unpack.compare y.toModel.unpack = some .lt := by
  change decide (x.toModel < y.toModel) = true ↔ _
  rw [decide_eq_true_iff]
  change (x.toModel.unpack.compare y.toModel.unpack == some .lt) = true ↔ _
  exact beq_iff_eq

theorem le_iff_compare (x y : Float) :
    x ≤ y ↔ (x.toModel.unpack.compare y.toModel.unpack).any (·.isLE) = true := by
  change decide (x.toModel ≤ y.toModel) = true ↔ _
  rw [decide_eq_true_iff]
  rfl

theorem beq_iff_compare (x y : Float) :
    (x == y) = true ↔ x.toModel.unpack.compare y.toModel.unpack = some .eq := by
  change (x.toModel.unpack.compare y.toModel.unpack == some .eq) = true ↔ _
  exact beq_iff_eq

def place? (x : Float) : Option Rank := rank? x.toModel.unpack

theorem lt_iff_place (x y : Float) : x < y ↔ ∃ a ∈ place? x, ∃ b ∈ place? y, a < b := by
  rw [lt_iff_compare]
  exact compare_eq_lt_iff _ _

instance : Scalar.LawfulOrder Float where
  lt_irrefl x h := by
    obtain ⟨a, ha, b, hb, hab⟩ := (lt_iff_place x x).mp h
    rw [Option.mem_unique ha hb] at hab
    exact hab.false
  lt_trans {x y z} h k := by
    obtain ⟨a, ha, b, hb, hab⟩ := (lt_iff_place x y).mp h
    obtain ⟨b', hb', c, hc, hbc⟩ := (lt_iff_place y z).mp k
    rw [Option.mem_unique hb' hb] at hbc
    exact (lt_iff_place x z).mpr ⟨a, ha, c, hc, hab.trans hbc⟩
  le_of_lt {x y} h := by
    rw [le_iff_compare, (lt_iff_compare x y).mp h]
    rfl
  le_self {x} h := by
    rw [le_iff_compare, (beq_iff_compare x x).mp h]
    rfl

instance : Scalar.LawfulLess Float where
  defined_of_lt {x y} h := by
    obtain ⟨a, ha, _⟩ := (lt_iff_place x y).mp h
    exact (beq_iff_compare x x).mpr ((compare_eq_eq_iff _ _).mpr ⟨a, ha, a, ha, rfl⟩)

theorem le_iff_place (x y : Float) : x ≤ y ↔ ∃ a ∈ place? x, ∃ b ∈ place? y, a ≤ b := by
  have hcases : ∀ o : Option Ordering, o.any (·.isLE) = true ↔ o = some .lt ∨ o = some .eq := by
    rintro (_ | _ | _ | _) <;> simp
  rw [le_iff_compare, hcases, compare_eq_lt_iff, compare_eq_eq_iff]
  constructor
  · rintro (⟨a, ha, b, hb, hab⟩ | ⟨a, ha, b, hb, hab⟩)
    · exact ⟨a, ha, b, hb, hab.le⟩
    · exact ⟨a, ha, b, hb, hab.le⟩
  · rintro ⟨a, ha, b, hb, hab⟩
    rcases hab.lt_or_eq with hlt | heq
    · exact .inl ⟨a, ha, b, hb, hlt⟩
    · exact .inr ⟨a, ha, b, hb, heq⟩

theorem exists_place {x : Float} (h : Scalar.Defined x) : ∃ a, a ∈ place? x := by
  obtain ⟨a, ha, -⟩ := (compare_eq_eq_iff _ _).mp ((beq_iff_compare x x).mp h)
  exact ⟨a, ha⟩

instance : Scalar.LawfulLE Float where
  le_trans {x y z} h k := by
    obtain ⟨a, ha, b, hb, hab⟩ := (le_iff_place x y).mp h
    obtain ⟨b', hb', c, hc, hbc⟩ := (le_iff_place y z).mp k
    rw [Option.mem_unique hb' hb] at hbc
    exact (le_iff_place x z).mpr ⟨a, ha, c, hc, hab.trans hbc⟩
  le_total {x y} hx hy := by
    obtain ⟨a, ha⟩ := exists_place hx
    obtain ⟨b, hb⟩ := exists_place hy
    rcases le_total a b with hab | hba
    · exact .inl ((le_iff_place x y).mpr ⟨a, ha, b, hb, hab⟩)
    · exact .inr ((le_iff_place y x).mpr ⟨b, hb, a, ha, hba⟩)

end Binary64

namespace Scalar

variable {α : Type} [Scalar α]

theorem largest_cons_cons (x y : α) (ys : List α) :
    largest (x :: y :: ys) = largest ((if y ≤ x then x else y) :: ys) := rfl

theorem largest_mem (x : α) (xs : List α) : largest (x :: xs) ∈ x :: xs := by
  induction xs generalizing x with
  | nil => simp [largest]
  | cons y ys ih =>
    rw [largest_cons_cons]
    rcases List.mem_cons.mp (ih (if y ≤ x then x else y)) with heq | hmem
    · rw [heq]
      split <;> simp
    · simp [hmem]

variable [LawfulLE α]

theorem le_largest {x : α} {xs : List α} (h : ∀ y ∈ x :: xs, Defined y) :
    ∀ y ∈ x :: xs, y ≤ largest (x :: xs) := by
  -- The larger one of the first two numbers stands for both of them.
  induction xs generalizing x with
  | nil =>
    obtain ⟨hx, -⟩ := List.forall_mem_cons.mp h
    simpa [largest] using (LawfulLE.le_total hx hx).elim id id
  | cons y ys ih =>
    simp only [List.forall_mem_cons] at h
    obtain ⟨hx, hy, hys⟩ := h
    rw [largest_cons_cons]
    by_cases hyx : y ≤ x
    · rw [if_pos hyx]
      have hrest := ih (List.forall_mem_cons.mpr ⟨hx, hys⟩)
      rw [List.forall_mem_cons] at hrest
      simp only [List.forall_mem_cons]
      exact ⟨hrest.1, LawfulLE.le_trans hyx hrest.1, hrest.2⟩
    · rw [if_neg hyx]
      have hxy : x ≤ y := (LawfulLE.le_total hx hy).resolve_right hyx
      have hrest := ih (List.forall_mem_cons.mpr ⟨hy, hys⟩)
      rw [List.forall_mem_cons] at hrest
      simp only [List.forall_mem_cons]
      exact ⟨LawfulLE.le_trans hxy hrest.1, hrest.1, hrest.2⟩

theorem largest_le_iff {xs : List α} (hne : xs ≠ []) (h : ∀ x ∈ xs, Defined x) {t : α} :
    largest xs ≤ t ↔ ∀ x ∈ xs, x ≤ t := by
  obtain ⟨y, ys, rfl⟩ := List.exists_cons_of_ne_nil hne
  constructor
  · exact fun ht x hx => LawfulLE.le_trans (le_largest h x hx) ht
  · exact fun hall => hall _ (largest_mem y ys)

end Scalar

end TelescopePointing
