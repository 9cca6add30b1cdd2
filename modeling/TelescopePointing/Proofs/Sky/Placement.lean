import Mathlib.Algebra.Group.ModEq
import TelescopePointing.Proofs.Engine.HourAngle
import TelescopePointing.Proofs.Observation.Pairing
import TelescopePointing.Proofs.Scalar.Real

namespace TelescopePointing

def Frame.longitudes : Frame → Set ℝ
  | hourAngle => Set.Ico (-Real.pi) Real.pi
  | _ => Set.Ico 0 Angle.fullTurn

namespace Angle

theorem positive_mem (x : ℝ) : positive x ∈ Set.Ico 0 fullTurn :=
  ⟨positive_nonneg x, fullTurn_eq ▸ positive_lt x⟩

theorem positive_modEq (x : ℝ) : positive x ≡ x [PMOD 2 * Real.pi] := by
  obtain ⟨k, hk⟩ := exists_positive_eq x
  rw [hk, ← zsmul_eq_mul]
  exact AddCommGroup.add_zsmul_modEq k

theorem signed_mem (x : ℝ) : signed x ∈ Set.Ico (-Real.pi) Real.pi := by
  obtain ⟨hlow, hhigh⟩ := positive_mem (x + halfTurn)
  rw [signed, fullTurn_eq, halfTurn_eq] at *
  constructor <;> linarith

theorem signed_modEq (x : ℝ) : signed x ≡ x [PMOD 2 * Real.pi] := by
  simpa only [signed, add_sub_cancel_right] using
    (positive_modEq (x + halfTurn)).sub_right halfTurn

theorem latitude_mem (x : ℝ) : latitude x ∈ latitudes := by
  have hpi := Real.pi_pos
  simp only [latitude, quarterTurn, latitudes, Scalar.real_pi, Scalar.real_two]
  exact Scalar.clamp_mem (by linarith) x

end Angle

theorem Frame.normalize_mem (f : Frame) (x : ℝ) : f.normalize x ∈ f.longitudes := by
  cases f with
  | hourAngle => exact Angle.signed_mem x
  | _ => exact Angle.positive_mem x

theorem Frame.normalize_modEq (f : Frame) (x : ℝ) : f.normalize x ≡ x [PMOD 2 * Real.pi] := by
  cases f with
  | hourAngle => exact Angle.signed_modEq x
  | _ => exact Angle.positive_modEq x

/-- A position of a frame at a moment, in the form in which its frame keeps angles. -/
structure SkyPosition.Placed (p : SkyPosition ℝ) (frame : Frame) (instant : Instant) : Prop where
  frame_eq : p.frame = frame
  instant_eq : p.instant = instant
  latitude_mem : p.latitude ∈ Angle.latitudes
  longitude_mem : p.longitude ∈ frame.longitudes

/-- Such a position stands for two angles that need not have this form. Only a latitude beyond a
pole is given up. -/
structure SkyPosition.Represents (p : SkyPosition ℝ) (longitude latitude : ℝ) (frame : Frame)
    (instant : Instant) : Prop extends p.Placed frame instant where
  longitude_modEq : p.longitude ≡ longitude [PMOD 2 * Real.pi]
  latitude_eq : latitude ∈ Angle.latitudes → p.latitude = latitude

namespace SkyPosition

theorem make_represents (longitude latitude : ℝ) (frame : Frame) (instant : Instant) :
    (make longitude latitude frame instant).Represents longitude latitude frame instant where
  frame_eq := rfl
  instant_eq := rfl
  latitude_mem := Angle.latitude_mem latitude
  longitude_mem := frame.normalize_mem longitude
  longitude_modEq := frame.normalize_modEq longitude
  latitude_eq := Angle.latitude_of_mem

theorem Represents.of_modEq {p : SkyPosition ℝ} {x y latitude : ℝ} {frame : Frame}
    {instant : Instant} (h : p.Represents x latitude frame instant)
    (hxy : x ≡ y [PMOD 2 * Real.pi]) : p.Represents y latitude frame instant :=
  { h with longitude_modEq := h.longitude_modEq.trans hxy }

end SkyPosition

/-- Where the azimuths of a convention start, counted from north through east. -/
noncomputable def AzimuthConvention.origin : AzimuthConvention → ℝ
  | northEast => 0
  | southWest => Real.pi

theorem AzimuthConvention.ofNorthEast_modEq (c : AzimuthConvention) (azimuth : ℝ) :
    c.ofNorthEast azimuth ≡ azimuth - c.origin [PMOD 2 * Real.pi] := by
  cases c with
  | northEast => simpa only [ofNorthEast, origin, sub_zero] using Angle.positive_modEq azimuth
  | southWest => exact Angle.positive_modEq (azimuth - Real.pi)

/-- Where a strategy finds the apparent place of a star, as a vector of the equator and equinox of
date. -/
noncomputable def Strategy.apparentDirection (s : Strategy) (star : SkyPosition ℝ)
    (time : ResolvedTime ℝ) : Direction ℝ :=
  let days := time.terrestrialDays
  match s with
  | rigorous => ((Earth.nutationRotation days).compose (Earth.precession days)).apply
      (Aberration.displace star.direction (Earth.velocity days))
  | legacy =>
    let shift := Aberration.corrections star.longitude star.latitude days
    (Earth.precession days).apply (SkyPosition.make (star.longitude + shift.1)
      (star.latitude + shift.2) star.frame star.instant).direction

theorem Strategy.apparentPlace_eq (s : Strategy) (star : SkyPosition ℝ) (time : ResolvedTime ℝ) :
    s.apparentPlace star time =
      .ofDirection (s.apparentDirection star time) .apparent time.instant := by
  cases s <;> rfl

namespace Engine

variable [NumberText ℝ] (e : Engine) {star horizon p : SkyPosition ℝ} {instant : Instant}
  {site : Site ℝ}

def conventionOf (horizon : SkyPosition ℝ) : AzimuthConvention :=
  match horizon.frame with
  | .horizon c => c
  | _ => e.convention

def frameOf : FitFrame → Frame
  | .horizon => .horizon e.convention
  | .hourAngle => .hourAngle

theorem apparentPlace_represents (h : e.apparentPlace star instant = .ok p) :
    ∃ time, ResolvedTime.resolve instant = .ok time ∧
      let v := e.strategy.apparentDirection star time
      p.Represents v.longitude v.latitude .apparent instant := by
  unfold apparentPlace at h
  cases htime : (ResolvedTime.resolve instant : Except _ (ResolvedTime ℝ)) with
  | error err =>
    rw [htime] at h
    cases h
  | ok time =>
    rw [htime] at h
    obtain rfl : e.strategy.apparentPlace star time = p := Except.ok.inj h
    obtain rfl : time = .ofInstant instant := (ResolvedTime.resolve_eq_ok_iff.mp htime).1
    rw [Strategy.apparentPlace_eq]
    exact ⟨_, rfl, SkyPosition.make_represents _ _ _ _⟩

theorem toHorizon_represents {air : Atmosphere ℝ} {correct : Bool}
    (h : e.toHorizon star instant site air correct = .ok p) :
    ∃ time, ResolvedTime.resolve instant = .ok time ∧
      let place := if correct then e.strategy.apparentPlace star time else star
      let a := e.unrefracted place time site
      let altitude := if correct then a.2 + e.strategy.refraction a.2 air else a.2
      p.Represents (a.1 - e.convention.origin) altitude (.horizon e.convention) instant := by
  obtain ⟨hsite, time, htime⟩ := e.sound_of_toHorizon h
  refine ⟨time, htime, ?_⟩
  cases correct with
  | false =>
    rw [e.toHorizon_false hsite htime] at h
    obtain rfl := Except.ok.inj h
    exact (SkyPosition.make_represents _ _ _ _).of_modEq (e.convention.ofNorthEast_modEq _)
  | true =>
    rw [e.toHorizon_true hsite htime] at h
    obtain rfl := Except.ok.inj h
    exact (SkyPosition.make_represents _ _ _ _).of_modEq (e.convention.ofNorthEast_modEq _)

theorem toHourAngle_represents (h : e.toHourAngle horizon instant site = .ok p) :
    let a := Horizon.toHourAngle ((e.conventionOf horizon).toNorthEast horizon.longitude)
      horizon.latitude site.latitudeAngle
    p.Represents a.1 a.2 .hourAngle instant := by
  obtain ⟨_, -, h⟩ := bind_eq_ok h
  obtain ⟨_, -, h⟩ := bind_eq_ok h
  obtain rfl := Except.ok.inj h
  exact SkyPosition.make_represents _ _ _ _

end Engine

section Pairs

variable [NumberText ℝ] {e : Engine} {frame : FitFrame}

structure StarPair.Placed (p : StarPair ℝ) (frame : Frame) (instant : Instant) : Prop where
  catalog : p.catalog.Placed frame instant
  mount : p.mount.Placed frame instant

omit [NumberText ℝ] in
theorem StarPair.longitudeDifference_mem (p : StarPair ℝ) :
    p.rawOffset.longitudeDifference ∈ Set.Ico (-Real.pi) Real.pi := Angle.signed_mem _

omit [NumberText ℝ] in
theorem StarPair.longitudeDifference_modEq (p : StarPair ℝ) :
    p.rawOffset.longitudeDifference ≡ p.catalog.longitude - p.mount.longitude
      [PMOD 2 * Real.pi] := Angle.signed_modEq _

theorem Observation.place_placed {o : Observation ℝ} {star p : SkyPosition ℝ} {air : Atmosphere ℝ}
    {correct : Bool} (h : o.place e star air correct frame = .ok p) :
    p.Placed (e.frameOf frame) o.instant := by
  cases frame with
  | horizon =>
    obtain ⟨_, -, hp⟩ := e.toHorizon_represents h
    exact hp.toPlaced
  | hourAngle =>
    obtain ⟨_, -, h⟩ := bind_eq_ok h
    exact (e.toHourAngle_represents h).toPlaced

theorem Observation.pair_placed {o : Observation ℝ} {pair : StarPair ℝ}
    (h : o.pair e frame = .ok pair) : pair.Placed (e.frameOf frame) o.instant := by
  obtain ⟨catalog, hcatalog, h⟩ := bind_eq_ok h
  obtain ⟨mount, hmount, h⟩ := bind_eq_ok h
  obtain rfl := Except.ok.inj h
  exact ⟨place_placed hcatalog, place_placed hmount⟩

theorem StarPair.ofObservations_placed {observations : List (Observation ℝ)}
    {pairs : List (StarPair ℝ)} (h : ofObservations observations e frame = .ok pairs) :
    List.Forall₂ (fun o pair => pair.Placed (e.frameOf frame) o.instant) observations pairs :=
  (mapM_eq_ok_iff.mp h).imp fun _ _ => Observation.pair_placed

/-- However a position comes about, its angles are those by which its frame names the direction that
was computed: shifts of a convention, wraps that are done twice and a star that is raised beyond the
zenith do not show. Both sides of a pair can be compared, and so is their difference an angle. Air in
which refraction has no value comes in only because the reals divide by zero; what is computed in it
may be no position at all. -/
theorem positions_represent :
    (∀ longitude latitude frame instant,
      (SkyPosition.make longitude latitude frame instant).Represents longitude latitude frame
        instant) ∧
    (∀ rightAscension declination instant,
      (SkyPosition.catalog rightAscension declination instant).Represents rightAscension declination
        .catalog instant) ∧
    (∀ v frame instant, (SkyPosition.ofDirection v frame instant).Represents v.longitude v.latitude
      frame instant) ∧
    (∀ (e : Engine) star instant p, e.apparentPlace star instant = .ok p →
      ∃ time, ResolvedTime.resolve instant = .ok time ∧
        let v := e.strategy.apparentDirection star time
        p.Represents v.longitude v.latitude .apparent instant) ∧
    (∀ (e : Engine) star instant site air correct p,
      e.toHorizon star instant site air correct = .ok p →
        ∃ time, ResolvedTime.resolve instant = .ok time ∧
          let place := if correct then e.strategy.apparentPlace star time else star
          let a := e.unrefracted place time site
          let altitude := if correct then a.2 + e.strategy.refraction a.2 air else a.2
          p.Represents (a.1 - e.convention.origin) altitude (.horizon e.convention) instant) ∧
    (∀ (e : Engine) horizon instant site p, e.toHourAngle horizon instant site = .ok p →
      let a := Horizon.toHourAngle ((e.conventionOf horizon).toNorthEast horizon.longitude)
        horizon.latitude site.latitudeAngle
      p.Represents a.1 a.2 .hourAngle instant) ∧
    (∀ observations (e : Engine) frame pairs,
      StarPair.ofObservations observations e frame = .ok pairs →
        List.Forall₂ (fun o pair => pair.Placed (e.frameOf frame) o.instant) observations pairs) ∧
    ∀ pair : StarPair ℝ,
      pair.rawOffset.longitudeDifference ∈ Set.Ico (-Real.pi) Real.pi ∧
        pair.rawOffset.longitudeDifference ≡ pair.catalog.longitude - pair.mount.longitude
          [PMOD 2 * Real.pi] :=
  ⟨SkyPosition.make_represents,
    fun _ _ _ => SkyPosition.make_represents _ _ _ _,
    fun _ _ _ => SkyPosition.make_represents _ _ _ _,
    fun e _ _ _ => e.apparentPlace_represents,
    fun e _ _ _ _ _ _ => e.toHorizon_represents,
    fun e _ _ _ _ => e.toHourAngle_represents,
    fun _ _ _ _ => StarPair.ofObservations_placed,
    fun pair => ⟨pair.longitudeDifference_mem, pair.longitudeDifference_modEq⟩⟩

omit [NumberText ℝ] in
theorem positions_represent_legacy : letI := roundedText
    let e : Engine := .make .legacy none .standard
    let star : SkyPosition ℝ := .catalog 7 (-1) ⟨0, .utc⟩
    let site : Site ℝ := ⟨0, 30, 0⟩
    let air : Atmosphere ℝ := ⟨-50, 0, 1⟩
    let o : Observation ℝ := ⟨1, star, star, air, site, ⟨0, .utc⟩, none⟩
    ∃ seen horizon hourAngle pair, e.apparentPlace star ⟨0, .utc⟩ = .ok seen ∧
      e.toHorizon star ⟨0, .utc⟩ site air true = .ok horizon ∧
      e.toHourAngle horizon ⟨0, .utc⟩ site = .ok hourAngle ∧
      StarPair.ofObservations [o] e .horizon = .ok [pair] ∧
      seen.Placed .apparent ⟨0, .utc⟩ ∧ horizon.Placed (.horizon .southWest) ⟨0, .utc⟩ ∧
      hourAngle.Placed .hourAngle ⟨0, .utc⟩ ∧
      pair.Placed (.horizon .southWest) ⟨0, .utc⟩ := by
  let := roundedText
  intro e star site air o
  have hsite : site.check = .ok () := site.check_eq_ok_iff.mpr (by norm_num [site])
  have htime : ResolvedTime.resolve ⟨0, .utc⟩ = .ok (.ofInstant (α := ℝ) ⟨0, .utc⟩) :=
    ResolvedTime.resolve_ofInstant (by decide) (by decide)
  have hseen : e.apparentPlace star ⟨0, .utc⟩ =
      .ok (e.strategy.apparentPlace star (.ofInstant ⟨0, .utc⟩)) := by
    rw [Engine.apparentPlace, htime]
    rfl
  obtain ⟨horizon, hourAngle, hhorizon, hhourAngle⟩ :=
    e.exists_hourAngle hsite htime e star air true
  obtain ⟨mount, -, hmount, -⟩ := e.exists_hourAngle hsite htime e star .vacuum false
  have hpairs : StarPair.ofObservations [o] e .horizon = .ok [⟨horizon, mount, 1, none⟩] := by
    refine mapM_eq_ok_iff.mpr (.cons ?_ .nil)
    change (do
      let catalog ← e.toHorizon star ⟨0, .utc⟩ site air true
      let mount ← e.toHorizon star ⟨0, .utc⟩ site .vacuum false
      return (⟨catalog, mount, 1, none⟩ : StarPair ℝ)) = _
    rw [hhorizon, hmount]
    rfl
  obtain ⟨-, -, -, happarent, hplaced, hturned, hbatch, -⟩ := positions_represent
  obtain ⟨_, -, hp⟩ := happarent e star _ _ hseen
  obtain ⟨_, -, hq⟩ := hplaced e star _ site air true _ hhorizon
  exact ⟨_, horizon, hourAngle, _, hseen, hhorizon, hhourAngle, hpairs, hp.toPlaced, hq.toPlaced,
    (hturned e horizon _ site _ hhourAngle).toPlaced,
    (List.forall₂_cons.mp (hbatch [o] e .horizon _ hpairs)).1⟩

end Pairs

end TelescopePointing
