import TelescopePointing.Proofs.Earth.Orbit
import TelescopePointing.Proofs.Sky.Separation

namespace TelescopePointing

open Matrix

namespace Aberration

/-- The motion of the Earth does not cancel the direction of a star, so that the star is displaced
somewhere. -/
def Displaces (star velocity : Direction ℝ) : Prop := (star.normalize.add velocity).length ≠ 0

theorem length_displace {star velocity : Direction ℝ} (h : Displaces star velocity) :
    (displace star velocity).length = 1 := Direction.length_normalize h

theorem displaces_of_reach {days : ℝ} (hreach : |Earth.centuries days| ≤ 10) (p : SkyPosition ℝ) :
    Displaces p.direction (Earth.velocity days) := by
  rw [Displaces, Direction.normalize_of_length p.length_direction]
  exact Direction.length_add_ne_zero p.length_direction (Earth.dot_velocity_lt_one hreach)

end Aberration

namespace Strategy

variable {time : ResolvedTime ℝ} {p q : SkyPosition ℝ}

/-- Precession and nutation do not change the angle between two stars; aberration alone does. -/
theorem separation_apparentPlace
    (hp : Aberration.Displaces p.direction (Earth.velocity time.terrestrialDays))
    (hq : Aberration.Displaces q.direction (Earth.velocity time.terrestrialDays)) :
    (rigorous.apparentPlace p time).separation (rigorous.apparentPlace q time) =
      (Aberration.displace p.direction (Earth.velocity time.terrestrialDays)).angle
        (Aberration.displace q.direction (Earth.velocity time.terrestrialDays)) := by
  have htoDate := Earth.proper_toDate time.terrestrialDays
  rw [apparentPlace_eq, apparentPlace_eq]
  refine (SkyPosition.separation_ofDirection ?_ ?_ _ _).trans
    (Direction.angle_congr (htoDate.dot_apply _ _) (htoDate.dot_apply _ _) (htoDate.dot_apply _ _))
  · exact (htoDate.length_apply _).trans (Aberration.length_displace hp)
  · exact (htoDate.length_apply _).trans (Aberration.length_displace hq)

end Strategy

/-- Precession, nutation and both together are rotations on every day, within reach or not. So the
transposed precession leads back from the equator of date: the velocity of the Earth, brought to
J2000, comes out again as it was. And the apparent places of two stars are as far apart as the
directions that aberration displaced them to; within reach there are always such directions. -/
theorem rotations_keep_angles :
    (∀ days : ℝ, ∀ m ∈ [Earth.precession days, Earth.nutationRotation days,
        (Earth.nutationRotation days).compose (Earth.precession days)],
      m.toMatrix * m.toMatrixᵀ = 1 ∧ m.toMatrix.det = 1) ∧
    (∀ days : ℝ, (Earth.precession days).apply (Earth.velocity days) =
      (Earth.equatorialVelocity days).shrink Earth.lightSpeed) ∧
    (∀ (time : ResolvedTime ℝ) (p q : SkyPosition ℝ),
      let velocity := Earth.velocity time.terrestrialDays
      Aberration.Displaces p.direction velocity → Aberration.Displaces q.direction velocity →
        (Strategy.rigorous.apparentPlace p time).separation
            (Strategy.rigorous.apparentPlace q time) =
          (Aberration.displace p.direction velocity).angle
            (Aberration.displace q.direction velocity)) ∧
    ∀ [NumberText ℝ] (instant : Instant) (time : ResolvedTime ℝ),
      ResolvedTime.resolve instant = .ok time → ∀ p : SkyPosition ℝ,
        Aberration.Displaces p.direction (Earth.velocity time.terrestrialDays) := by
  refine ⟨fun days m hm => ?_, Earth.precession_velocity,
    fun time p q hp hq => Strategy.separation_apparentPlace hp hq,
    fun instant time htime => Aberration.displaces_of_reach (Earth.abs_centuries_le htime)⟩
  rw [← Rotation.proper_iff]
  simp only [List.mem_cons, List.not_mem_nil, or_false] at hm
  rcases hm with rfl | rfl | rfl
  · exact Earth.proper_precession days
  · exact Earth.proper_nutationRotation days
  · exact Earth.proper_toDate days

theorem rotations_keep_angles_pole : letI := roundedText
    let instant : Instant := ⟨0, .utc⟩
    let time : ResolvedTime ℝ := .ofInstant instant
    let days := time.terrestrialDays
    let toDate := (Earth.nutationRotation days).compose (Earth.precession days)
    let velocity := Earth.velocity days
    let star : SkyPosition ℝ := .catalog 1 (-1) instant
    let pole : SkyPosition ℝ := .catalog 0 (Real.pi / 2) instant
    (toDate.toMatrix * toDate.toMatrixᵀ = 1 ∧ toDate.toMatrix.det = 1) ∧
      ResolvedTime.resolve instant = .ok time ∧
      Aberration.Displaces star.direction velocity ∧
      Aberration.Displaces pole.direction velocity ∧
      (Strategy.rigorous.apparentPlace star time).separation
          (Strategy.rigorous.apparentPlace pole time) =
        (Aberration.displace star.direction velocity).angle
          (Aberration.displace pole.direction velocity) := by
  let := roundedText
  intro instant time days toDate velocity star pole
  obtain ⟨hrotations, -, hseparation, hdisplaces⟩ := rotations_keep_angles
  have htime : ResolvedTime.resolve instant = .ok time :=
    ResolvedTime.resolve_ofInstant (by decide) (by decide)
  have hstar := hdisplaces instant time htime star
  have hpole := hdisplaces instant time htime pole
  exact ⟨hrotations days toDate (by simp [toDate]), htime, hstar, hpole,
    hseparation time star pole hstar hpole⟩

end TelescopePointing
