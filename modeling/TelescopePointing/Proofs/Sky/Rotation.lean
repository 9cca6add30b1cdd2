import Mathlib.LinearAlgebra.UnitaryGroup
import TelescopePointing.Proofs.Sky.Direction

namespace TelescopePointing

open Matrix Scalar

def Direction.coordinates (v : Direction ℝ) : Fin 3 → ℝ := ![v.x, v.y, v.z]

theorem Direction.coordinates_injective : Function.Injective coordinates := by
  intro v w h
  have hx := congrFun h 0
  have hy := congrFun h 1
  have hz := congrFun h 2
  simp only [coordinates, cons_val] at hx hy hz
  cases v
  cases w
  simp_all

theorem Direction.dot_eq_dotProduct (v w : Direction ℝ) :
    v.dot w = v.coordinates ⬝ᵥ w.coordinates := by
  simp [dot_eq, coordinates, dotProduct, Fin.sum_univ_three]

namespace Rotation

def toMatrix (m : Rotation ℝ) : Matrix (Fin 3) (Fin 3) ℝ :=
  of ![m.row1.coordinates, m.row2.coordinates, m.row3.coordinates]

theorem toMatrix_transpose (m : Rotation ℝ) : m.transpose.toMatrix = m.toMatrixᵀ := by
  ext i j
  fin_cases i <;> fin_cases j <;> rfl

theorem coordinates_apply (m : Rotation ℝ) (v : Direction ℝ) :
    (m.apply v).coordinates = m.toMatrix *ᵥ v.coordinates := by
  ext i
  fin_cases i <;> exact Direction.dot_eq_dotProduct _ v

theorem toMatrix_compose (m n : Rotation ℝ) :
    (m.compose n).toMatrix = m.toMatrix * n.toMatrix := by
  ext i j
  fin_cases i <;> fin_cases j <;>
    simp [toMatrix, compose, transpose, apply, Direction.coordinates, Direction.dot_eq, mul_apply,
      Fin.sum_univ_three, mul_comm]

/-- A map that keeps lengths and angles, and does not turn space inside out. -/
def Proper (m : Rotation ℝ) : Prop := m.toMatrix ∈ specialOrthogonalGroup (Fin 3) ℝ

theorem proper_iff (m : Rotation ℝ) :
    m.Proper ↔ m.toMatrix * m.toMatrixᵀ = 1 ∧ m.toMatrix.det = 1 := by
  rw [Proper, mem_specialOrthogonalGroup_iff, mem_orthogonalGroup_iff]

section Proper

variable {m n : Rotation ℝ}

theorem Proper.compose (hm : m.Proper) (hn : n.Proper) : (m.compose n).Proper := by
  rw [Proper, toMatrix_compose]
  exact mul_mem hm hn

theorem Proper.dot_apply (hm : m.Proper) (v w : Direction ℝ) :
    (m.apply v).dot (m.apply w) = v.dot w := by
  have hunit : m.toMatrixᵀ * m.toMatrix = 1 := mul_eq_one_comm.mp (m.proper_iff.mp hm).1
  rw [Direction.dot_eq_dotProduct, Direction.dot_eq_dotProduct, coordinates_apply,
    coordinates_apply, dotProduct_mulVec, ← mulVec_transpose, mulVec_mulVec, hunit, one_mulVec]

theorem Proper.length_apply (hm : m.Proper) (v : Direction ℝ) : (m.apply v).length = v.length := by
  rw [Direction.length, hm.dot_apply, Direction.length]

theorem Proper.apply_transpose (hm : m.Proper) (v : Direction ℝ) :
    m.apply (m.transpose.apply v) = v := by
  apply Direction.coordinates_injective
  rw [coordinates_apply, coordinates_apply, toMatrix_transpose, mulVec_mulVec,
    (m.proper_iff.mp hm).1, one_mulVec]

end Proper

section About

variable (u : Direction ℝ) (angle : ℝ)

/-- How far the map about an axis is from keeping lengths and angles: not at all if the axis has the
length one. -/
theorem about_mul_transpose (i j : Fin 3) :
    ((about u angle).toMatrix * (about u angle).toMatrixᵀ) i j =
      (1 : Matrix (Fin 3) (Fin 3) ℝ) i j +
        ((1 : Matrix (Fin 3) (Fin 3) ℝ) i j * Real.sin angle ^ 2 +
          u.coordinates i * u.coordinates j * (1 - Real.cos angle) ^ 2) * (u.dot u - 1) +
        ((1 : Matrix (Fin 3) (Fin 3) ℝ) i j - u.coordinates i * u.coordinates j) *
          (Real.sin angle ^ 2 + Real.cos angle ^ 2 - 1) := by
  fin_cases i <;> fin_cases j <;>
    simp [toMatrix, about, Direction.coordinates, Direction.dot_eq, mul_apply, Fin.sum_univ_three,
      -Real.sin_sq_add_cos_sq] <;>
    ring

theorem det_about : (about u angle).toMatrix.det =
    (Real.cos angle + (1 - Real.cos angle) * u.dot u) *
      (Real.cos angle ^ 2 + Real.sin angle ^ 2 * u.dot u) := by
  simp [det_fin_three, toMatrix, about, Direction.coordinates, Direction.dot_eq]
  ring

end About

theorem proper_about {u : Direction ℝ} (hu : u.dot u = 1) (angle : ℝ) : (about u angle).Proper := by
  have hcircle := Real.sin_sq_add_cos_sq angle
  refine (proper_iff _).mpr ⟨?_, ?_⟩
  · ext i j
    rw [about_mul_transpose, hu, hcircle]
    ring
  · rw [det_about, hu]
    linear_combination hcircle

theorem frameX_apply (angle : ℝ) (v : Direction ℝ) : (frameX angle).apply v =
    ⟨v.x, Real.cos angle * v.y + Real.sin angle * v.z,
      Real.cos angle * v.z - Real.sin angle * v.y⟩ := by
  simp only [frameX, about, apply, Direction.dot_eq, real_sin, real_cos, real_zero, real_one,
    Real.sin_neg, Real.cos_neg]
  congr 1 <;> ring

theorem apply_shrink (m : Rotation ℝ) (v : Direction ℝ) (k : ℝ) :
    m.apply (v.shrink k) = (m.apply v).shrink k := by
  simp only [apply, Direction.shrink, Direction.dot_eq]
  congr 1 <;> ring

theorem proper_frameX (angle : ℝ) : (frameX angle).Proper :=
  proper_about (by simp [Direction.dot_eq]) _

theorem proper_frameY (angle : ℝ) : (frameY angle).Proper :=
  proper_about (by simp [Direction.dot_eq]) _

theorem proper_frameZ (angle : ℝ) : (frameZ angle).Proper :=
  proper_about (by simp [Direction.dot_eq]) _

end Rotation

end TelescopePointing
