import Mathlib.Analysis.InnerProductSpace.PiL2
import Mathlib.Geometry.Euclidean.Angle.Unoriented.TriangleInequality
import TelescopePointing.Proofs.Sky.Rotation
import TelescopePointing.Proofs.Sky.Separation

namespace TelescopePointing

open Scalar

namespace Direction

noncomputable def toSpace (v : Direction ℝ) : EuclideanSpace ℝ (Fin 3) := .toLp _ v.coordinates

theorem inner_toSpace (v w : Direction ℝ) : inner ℝ v.toSpace w.toSpace = v.dot w := by
  rw [dot_comm, dot_eq_dotProduct]
  exact EuclideanSpace.inner_eq_star_dotProduct _ _

theorem norm_toSpace (v : Direction ℝ) : ‖v.toSpace‖ = v.length := by
  rw [norm_eq_sqrt_real_inner, inner_toSpace, length_eq]

theorem toSpace_injective : Function.Injective toSpace :=
  (WithLp.toLp_injective 2).comp coordinates_injective

variable {v w u : Direction ℝ}

/-- The form with the longer arithmetic is the angle whose cosine is the product, also where the
vectors have one direction and where they are opposite. -/
theorem angle_eq_arccos (hv : v.length = 1) (hw : w.length = 1) :
    v.angle w = Real.arccos (v.dot w) := by
  have hv' : v.dot v = 1 := by rw [← length_mul_self, hv, one_mul]
  have hw' : w.dot w = 1 := by rw [← length_mul_self, hw, one_mul]
  have hcross : (v.cross w).length = √(1 - v.dot w ^ 2) := by
    rw [length_eq, dot_cross_self, hv', hw', one_mul]
  have hnonneg : 0 ≤ 1 - v.dot w ^ 2 := by
    have h := (v.cross w).dot_self_nonneg
    rwa [dot_cross_self, hv', hw', one_mul] at h
  have hnorm : ‖(⟨v.dot w, √(1 - v.dot w ^ 2)⟩ : ℂ)‖ = 1 := by
    rw [Complex.norm_def, Complex.normSq_mk, Real.mul_self_sqrt hnonneg, Real.sqrt_eq_one]
    ring
  have hne : (⟨v.dot w, √(1 - v.dot w ^ 2)⟩ : ℂ) ≠ 0 := by
    rw [← norm_ne_zero_iff, hnorm]
    exact one_ne_zero
  have harg := Complex.arg_of_im_nonneg_of_ne_zero (Real.sqrt_nonneg _) hne
  rw [hnorm, div_one] at harg
  rw [angle, hcross]
  exact harg

theorem angle_eq_angle_toSpace (hv : v.length = 1) (hw : w.length = 1) :
    v.angle w = InnerProductGeometry.angle v.toSpace w.toSpace := by
  rw [angle_eq_arccos hv hw, InnerProductGeometry.angle, inner_toSpace, norm_toSpace, norm_toSpace,
    hv, hw, one_mul, div_one]

end Direction

namespace SkyPosition

variable (p q r : SkyPosition ℝ)

theorem separation_eq_arccos : p.separation q = Real.arccos (p.direction.dot q.direction) :=
  Direction.angle_eq_arccos p.length_direction q.length_direction

theorem separation_mem : p.separation q ∈ Set.Icc 0 Real.pi := by
  rw [separation_eq_arccos]
  exact ⟨Real.arccos_nonneg _, Real.arccos_le_pi _⟩

theorem separation_comm : p.separation q = q.separation p := by
  rw [separation_eq_arccos, separation_eq_arccos, Direction.dot_comm]

theorem separation_eq_zero_iff : p.separation q = 0 ↔ p.direction = q.direction := by
  have hp : ‖p.direction.toSpace‖ = 1 := p.direction.norm_toSpace.trans p.length_direction
  have hq : ‖q.direction.toSpace‖ = 1 := q.direction.norm_toSpace.trans q.length_direction
  have hle : inner ℝ p.direction.toSpace q.direction.toSpace ≤ 1 := by
    simpa only [hp, hq, one_mul] using
      real_inner_le_norm p.direction.toSpace q.direction.toSpace
  rw [separation_eq_arccos, Real.arccos_eq_zero, ← Direction.inner_toSpace, hle.ge_iff_eq,
    inner_eq_one_iff_of_norm_eq_one hp hq, Direction.toSpace_injective.eq_iff]

theorem separation_le_add : p.separation r ≤ p.separation q + q.separation r := by
  have hangle : ∀ s t : SkyPosition ℝ, s.separation t =
      InnerProductGeometry.angle s.direction.toSpace t.direction.toSpace :=
    fun s t => Direction.angle_eq_angle_toSpace s.length_direction t.length_direction
  rw [hangle, hangle, hangle]
  exact InnerProductGeometry.angle_le_angle_add_angle _ _ _

end SkyPosition

end TelescopePointing
