import TelescopePointing.Proofs.Scalar.Partial
import TelescopePointing.Proofs.Sky.Direction
import TelescopePointing.Sky.Position

namespace TelescopePointing

open PartialReal Scalar

namespace Angle

@[simp] theorem of_degree : (degree : PartialReal) = of degree := by
  simp (disch := norm_num) only [degree, of_pi, of_scientific, of_div]

@[simp] theorem of_arcsecond : (arcsecond : PartialReal) = of arcsecond := by
  simp (disch := norm_num) only [arcsecond, of_pi, of_scientific, of_div]

@[simp] theorem of_fullTurn : (fullTurn : PartialReal) = of fullTurn := rfl

@[simp] theorem of_halfTurn : (halfTurn : PartialReal) = of halfTurn := rfl

@[simp] theorem of_quarterTurn : (quarterTurn : PartialReal) = of quarterTurn := by
  simp (disch := norm_num) only [quarterTurn, of_pi, of_scientific, of_div]

@[simp] theorem ofDegrees_of (x : ℝ) : ofDegrees (of x) = of (ofDegrees x) := by
  simp only [ofDegrees, of_degree, of_mul]

@[simp] theorem toDegrees_of (x : ℝ) : toDegrees (of x) = of (toDegrees x) := by
  have hpi : (Scalar.pi : ℝ) ≠ 0 := Real.pi_ne_zero
  simp only [toDegrees, of_pi, of_scientific, of_div hpi, of_mul]

@[simp] theorem positive_of (x : ℝ) : positive (of x) = of (positive x) := by
  simp only [positive, of_fullTurn, of_modulo fullTurn_pos.ne', of_le, of_scientific]
  split <;> rfl

@[simp] theorem signed_of (x : ℝ) : signed (of x) = of (signed x) := by
  simp only [signed, of_halfTurn, of_add, of_sub, positive_of]

@[simp] theorem latitude_of (x : ℝ) : latitude (of x) = of (latitude x) := by
  simp only [latitude, of_quarterTurn, of_neg, of_clamp]

end Angle

namespace Direction

def lift (v : Direction ℝ) : Direction PartialReal := ⟨of v.x, of v.y, of v.z⟩

variable (v w : Direction ℝ)

@[simp] theorem add_lift : v.lift.add w.lift = (v.add w).lift := rfl

@[simp] theorem dot_lift : v.lift.dot w.lift = of (v.dot w) := rfl

theorem shrink_lift {k : ℝ} (h : k ≠ 0) : v.lift.shrink (of k) = (v.shrink k).lift := by
  simp only [shrink, lift, of_div h]

@[simp] theorem length_lift : v.lift.length = of v.length := by
  simp only [length, dot_lift, of_sqrt v.dot_self_nonneg]

theorem normalize_lift (h : v.length ≠ 0) : v.lift.normalize = v.normalize.lift := by
  rw [normalize, length_lift, shrink_lift v h, normalize]

@[simp] theorem longitude_lift : v.lift.longitude = of v.longitude := rfl

@[simp] theorem latitude_lift : v.lift.latitude = of v.latitude := by
  simp only [latitude, lift, of_hypot, of_atan2]

end Direction

namespace Rotation

def lift (m : Rotation ℝ) : Rotation PartialReal := ⟨m.row1.lift, m.row2.lift, m.row3.lift⟩

variable (m n : Rotation ℝ) (angle : ℝ)

@[simp] theorem apply_lift (v : Direction ℝ) : m.lift.apply v.lift = (m.apply v).lift := rfl

@[simp] theorem transpose_lift : m.lift.transpose = m.transpose.lift := rfl

@[simp] theorem compose_lift : m.lift.compose n.lift = (m.compose n).lift := rfl

@[simp] theorem frameX_of : frameX (of angle) = (frameX angle).lift := rfl

@[simp] theorem frameY_of : frameY (of angle) = (frameY angle).lift := rfl

@[simp] theorem frameZ_of : frameZ (of angle) = (frameZ angle).lift := rfl

end Rotation

namespace SkyPosition

def lift (p : SkyPosition ℝ) : SkyPosition PartialReal :=
  ⟨of p.longitude, of p.latitude, p.frame, p.instant⟩

@[simp] theorem direction_lift (p : SkyPosition ℝ) : p.lift.direction = p.direction.lift := rfl

@[simp] theorem make_of (longitude latitude : ℝ) (frame : Frame) (instant : Instant) :
    make (of longitude) (of latitude) frame instant = (make longitude latitude frame instant).lift
      := by
  cases frame <;>
    simp [make, lift, Frame.normalize, Frame.hasSignedLongitude]

@[simp] theorem ofDirection_lift (v : Direction ℝ) (frame : Frame) (instant : Instant) :
    ofDirection v.lift frame instant = (ofDirection v frame instant).lift := by
  simp only [ofDirection, Direction.longitude_lift, Direction.latitude_lift, make_of]

end SkyPosition

end TelescopePointing
