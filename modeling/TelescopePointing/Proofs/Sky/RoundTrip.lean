import Mathlib.Algebra.Order.ToIntervalMod
import TelescopePointing.Proofs.Sky.Separation

namespace TelescopePointing

open Scalar

/-- Two angles of one turn are the same when they differ by whole turns only. -/
theorem Angle.eq_of_modEq {start x y : ℝ} (hx : x ∈ Set.Ico start (start + 2 * Real.pi))
    (hy : y ∈ Set.Ico start (start + 2 * Real.pi)) (h : x ≡ y [PMOD 2 * Real.pi]) : x = y := by
  rw [← (toIcoMod_eq_self Real.two_pi_pos).mpr hx, ← (toIcoMod_eq_self Real.two_pi_pos).mpr hy]
  exact (toIcoMod_inj Real.two_pi_pos).mpr h

namespace Frame

noncomputable def firstLongitude : Frame → ℝ
  | hourAngle => -Real.pi
  | _ => 0

theorem longitudes_eq (f : Frame) :
    f.longitudes = Set.Ico f.firstLongitude (f.firstLongitude + 2 * Real.pi) := by
  cases f with
  | hourAngle =>
    have hturn : -Real.pi + 2 * Real.pi = Real.pi := by ring
    rw [longitudes, firstLongitude, hturn]
  | _ => simp only [longitudes, firstLongitude, Angle.fullTurn_eq, zero_add]

theorem eq_of_modEq {f : Frame} {x y : ℝ} (hx : x ∈ f.longitudes) (hy : y ∈ f.longitudes)
    (h : x ≡ y [PMOD 2 * Real.pi]) : x = y := by
  rw [longitudes_eq] at hx hy
  exact Angle.eq_of_modEq hx hy h

theorem normalize_of_mem {f : Frame} {x : ℝ} (h : x ∈ f.longitudes) : f.normalize x = x :=
  eq_of_modEq (f.normalize_mem x) h (f.normalize_modEq x)

theorem zero_mem_longitudes (f : Frame) : (0 : ℝ) ∈ f.longitudes := by
  have hpi := Real.pi_pos
  rw [longitudes_eq]
  cases f <;> constructor <;> simp only [firstLongitude] <;> linarith

end Frame

namespace Direction

noncomputable def scale (k : ℝ) (v : Direction ℝ) : Direction ℝ := ⟨k * v.x, k * v.y, k * v.z⟩

theorem length_scale {k : ℝ} (hk : 0 ≤ k) (v : Direction ℝ) :
    (v.scale k).length = k * v.length := by
  have hdot : (v.scale k).dot (v.scale k) = k ^ 2 * v.dot v := by
    simp only [scale, dot_eq]
    ring
  rw [length_eq, hdot, Real.sqrt_mul (sq_nonneg k), Real.sqrt_sq hk, length_eq]

theorem normalize_scale {k : ℝ} (hk : 0 < k) {v : Direction ℝ} (hv : v.length = 1) :
    (v.scale k).normalize = v := by
  have hlength : (v.scale k).length = k := by rw [length_scale hk.le, hv, mul_one]
  rw [normalize, hlength, shrink, scale]
  simp only [mul_div_cancel_left₀ _ hk.ne']

theorem length_eq_zero_iff {v : Direction ℝ} : v.length = 0 ↔ v = ⟨0, 0, 0⟩ := by
  rw [length_eq, Real.sqrt_eq_zero v.dot_self_nonneg]
  constructor
  · intro h
    obtain ⟨x, y, z⟩ := v
    have hx := mul_self_nonneg x
    have hy := mul_self_nonneg y
    have hz := mul_self_nonneg z
    rw [dot_eq] at h
    dsimp only at h
    have hx0 : x = 0 := mul_self_eq_zero.mp (by linarith)
    have hy0 : y = 0 := mul_self_eq_zero.mp (by linarith)
    have hz0 : z = 0 := mul_self_eq_zero.mp (by linarith)
    rw [hx0, hy0, hz0]
  · rintro rfl
    simp [dot_eq]

end Direction

namespace SkyPosition

variable {p q : SkyPosition ℝ} {frame : Frame} {instant : Instant}

theorem Placed.eq_of_direction_eq (hp : p.Placed frame instant) (hq : q.Placed frame instant)
    (h : q.direction = p.direction) : q = { p with longitude := q.longitude } := by
  have hlatitude := (Direction.ofAngles_inj h hp.latitude_mem hq.latitude_mem).1
  have hframe := hq.frame_eq.trans hp.frame_eq.symm
  have hinstant := hq.instant_eq.trans hp.instant_eq.symm
  rw [← hlatitude, ← hframe, ← hinstant]

theorem Placed.longitude_eq_of_direction_eq (hp : p.Placed frame instant)
    (hq : q.Placed frame instant) (h : q.direction = p.direction)
    (hpole : Real.cos p.latitude ≠ 0) : q.longitude = p.longitude := by
  have hsigned := (Direction.ofAngles_inj h hp.latitude_mem hq.latitude_mem).2 hpole
  exact Frame.eq_of_modEq hq.longitude_mem hp.longitude_mem
    ((Angle.signed_modEq _).symm.trans (hsigned ▸ Angle.signed_modEq _))

theorem placed_make (longitude latitude : ℝ) (frame : Frame) (instant : Instant) :
    (make longitude latitude frame instant).Placed frame instant :=
  (make_represents longitude latitude frame instant).toPlaced

theorem direction_ofDirection_scale (p : SkyPosition ℝ) {k : ℝ} (hk : 0 < k) (frame : Frame)
    (instant : Instant) : (ofDirection (p.direction.scale k) frame instant).direction =
      p.direction := by
  have hunit := p.length_direction
  have hlength : (p.direction.scale k).length ≠ 0 := by
    rw [Direction.length_scale hk.le, hunit, mul_one]
    exact hk.ne'
  rw [direction_ofDirection hlength, Direction.normalize_scale hk hunit]

/-- A vector on the axis has no longitude of its own and gets the one that angles start with. -/
theorem longitude_ofDirection_of_axis {v : Direction ℝ} (hx : v.x = 0) (hy : v.y = 0)
    (frame : Frame) (instant : Instant) : (ofDirection v frame instant).longitude = 0 := by
  have harg : v.longitude = 0 := by
    rw [Direction.longitude, hx, hy]
    exact Complex.arg_zero
  rw [ofDirection, make, harg, Frame.normalize_of_mem frame.zero_mem_longitudes]

/-- Positions and vectors lead back to each other. A position that is stretched to a vector of any
length comes back as it was, in the range of longitudes that its frame keeps, and only a pole loses
its longitude. A vector other than zero, be it on the axis or not, comes back at length one. -/
theorem directions_invert :
    (∀ (longitude latitude : ℝ) frame instant (k : ℝ), 0 < k →
      let p : SkyPosition ℝ := make longitude latitude frame instant
      (Real.cos p.latitude ≠ 0 →
        ofDirection (p.direction.scale k) p.frame p.instant = p) ∧
      (Real.cos p.latitude = 0 →
        ofDirection (p.direction.scale k) p.frame p.instant = { p with longitude := 0 })) ∧
    ∀ (v : Direction ℝ) frame instant, v ≠ ⟨0, 0, 0⟩ →
      (ofDirection v frame instant).direction = v.shrink v.length := by
  refine ⟨fun longitude latitude frame instant k hk => ?_, fun v frame instant hv => ?_⟩
  · intro p
    have hp : p.Placed frame instant := placed_make longitude latitude frame instant
    have hq : (ofDirection (p.direction.scale k) frame instant).Placed frame instant :=
      placed_make _ _ frame instant
    have hback := p.direction_ofDirection_scale hk frame instant
    refine ⟨fun hpole => ?_, fun hpole => ?_⟩
    · refine (hp.eq_of_direction_eq hq hback).trans ?_
      rw [hp.longitude_eq_of_direction_eq hq hback hpole]
    · refine (hp.eq_of_direction_eq hq hback).trans ?_
      have hx : (p.direction.scale k).x = 0 := by
        simp [Direction.scale, direction, Direction.ofAngles_eq, hpole]
      have hy : (p.direction.scale k).y = 0 := by
        simp [Direction.scale, direction, Direction.ofAngles_eq, hpole]
      rw [longitude_ofDirection_of_axis hx hy]
  · exact direction_ofDirection (mt Direction.length_eq_zero_iff.mp hv) frame instant

theorem directions_invert_antimeridian :
    let p : SkyPosition ℝ := make Real.pi 0 .hourAngle ⟨0, .utc⟩
    p.longitude = -Real.pi ∧ (0 : ℝ) < 3 ∧ Real.cos p.latitude ≠ 0 ∧
      ofDirection (p.direction.scale 3) .hourAngle ⟨0, .utc⟩ = p ∧
      (⟨0, 0, -2⟩ : Direction ℝ) ≠ ⟨0, 0, 0⟩ ∧
      (ofDirection (⟨0, 0, -2⟩ : Direction ℝ) .catalog ⟨0, .utc⟩).direction =
        (⟨0, 0, -2⟩ : Direction ℝ).shrink (Direction.length ⟨0, 0, -2⟩) := by
  intro p
  have hpi := Real.pi_pos
  have hturn : -Real.pi ≡ Real.pi [PMOD 2 * Real.pi] :=
    AddCommGroup.modEq_iff_eq_add_zsmul.mpr ⟨1, by rw [one_zsmul]; ring⟩
  have hlongitude : p.longitude = -Real.pi :=
    Frame.eq_of_modEq (f := .hourAngle) (Frame.normalize_mem _ _) ⟨le_rfl, by linarith⟩
      ((Frame.normalize_modEq .hourAngle Real.pi).trans hturn.symm)
  have hlatitude : p.latitude = 0 := Angle.latitude_of_mem ⟨by linarith, by linarith⟩
  have hpole : Real.cos p.latitude ≠ 0 := by
    rw [hlatitude, Real.cos_zero]
    exact one_ne_zero
  have hv : (⟨0, 0, -2⟩ : Direction ℝ) ≠ ⟨0, 0, 0⟩ := by simp
  exact ⟨hlongitude, by norm_num, hpole,
    (directions_invert.1 Real.pi 0 .hourAngle ⟨0, .utc⟩ 3 (by norm_num)).1 hpole, hv,
    directions_invert.2 _ .catalog ⟨0, .utc⟩ hv⟩

end SkyPosition

end TelescopePointing
