import TelescopePointing.Engine.Transform
import TelescopePointing.Proofs.Scalar.Real
import TelescopePointing.Proofs.Sky.Direction
import TelescopePointing.Proofs.Time.Resolved

namespace TelescopePointing

theorem Site.check_eq_ok_iff [NumberText ℝ] (s : Site ℝ) : s.check = .ok () ↔
    -90 ≤ s.latitude ∧ s.latitude ≤ 90 := by
  have hfinite : s.undefinedCoordinate? = none := by simp [undefinedCoordinate?]
  have hninety : (90.0 : ℝ) = 90 := by norm_num
  simp only [check, hfinite, hninety, Bool.and_eq_true, decide_eq_true_eq]
  by_cases h : -90 ≤ s.latitude ∧ s.latitude ≤ 90
  · rw [if_pos h]
    exact iff_of_true rfl h
  · rw [if_neg h]
    exact iff_of_false nofun h

namespace Horizon

/-- Exchange the two ways to give a direction at a latitude: by the meridian, the west and the pole,
and by the north, the east and the zenith. -/
noncomputable def exchange (latitude : ℝ) (v : Direction ℝ) : Direction ℝ :=
  ⟨Real.cos latitude * v.z - Real.sin latitude * v.x, -v.y,
    Real.sin latitude * v.z + Real.cos latitude * v.x⟩

theorem exchange_exchange (latitude : ℝ) (v : Direction ℝ) :
    exchange latitude (exchange latitude v) = v := by
  have hunit := Real.sin_sq_add_cos_sq latitude
  simp only [exchange, neg_neg]
  congr 1
  · linear_combination v.x * hunit
  · linear_combination v.z * hunit

theorem dot_exchange (latitude : ℝ) (v w : Direction ℝ) :
    (exchange latitude v).dot (exchange latitude w) = v.dot w := by
  simp only [exchange, Direction.dot_eq]
  linear_combination (v.x * w.x + v.z * w.z) * Real.sin_sq_add_cos_sq latitude

/-- Both ways are one, given by the angles of the exchanged direction. -/
theorem toHourAngle_eq_angles (azimuth altitude latitude : ℝ) :
    toHourAngle azimuth altitude latitude =
      (exchange latitude (.ofAngles azimuth altitude)).angles := by
  have hx : Real.cos latitude * Real.sin altitude -
      Real.sin latitude * Real.cos altitude * Real.cos azimuth =
        (exchange latitude (.ofAngles azimuth altitude)).x := by
    simp only [exchange, Direction.ofAngles_eq]
    ring
  have hy : -Real.cos altitude * Real.sin azimuth =
      (exchange latitude (.ofAngles azimuth altitude)).y := by
    simp only [exchange, Direction.ofAngles_eq]
    ring
  have hz : Real.sin latitude * Real.sin altitude +
      Real.cos latitude * Real.cos altitude * Real.cos azimuth =
        (exchange latitude (.ofAngles azimuth altitude)).z := by
    simp only [exchange, Direction.ofAngles_eq]
    ring
  rw [Direction.angles, ← hx, ← hy, ← hz]
  rfl

theorem ofHourAngle_eq_toHourAngle (hourAngle declination latitude : ℝ) :
    ofHourAngle hourAngle declination latitude =
      toHourAngle hourAngle declination latitude := by
  have hx : Real.sin declination * Real.cos latitude -
      Real.cos declination * Real.cos hourAngle * Real.sin latitude =
        Real.cos latitude * Real.sin declination -
          Real.sin latitude * Real.cos declination * Real.cos hourAngle := by
    ring
  exact congrArg (fun x => (Scalar.atan2 (-Real.cos declination * Real.sin hourAngle) x, _)) hx

theorem ofHourAngle_eq_angles (hourAngle declination latitude : ℝ) :
    ofHourAngle hourAngle declination latitude =
      (exchange latitude (.ofAngles hourAngle declination)).angles := by
  rw [ofHourAngle_eq_toHourAngle, toHourAngle_eq_angles]

theorem ofAngles_toHourAngle (azimuth altitude latitude : ℝ) :
    let a := toHourAngle azimuth altitude latitude
    Direction.ofAngles a.1 a.2 = exchange latitude (.ofAngles azimuth altitude) := by
  rw [toHourAngle_eq_angles]
  exact Direction.ofAngles_angles (by rw [dot_exchange, Direction.dot_ofAngles_self])

theorem ofAngles_ofHourAngle (hourAngle declination latitude : ℝ) :
    let a := ofHourAngle hourAngle declination latitude
    Direction.ofAngles a.1 a.2 = exchange latitude (.ofAngles hourAngle declination) := by
  rw [ofHourAngle_eq_toHourAngle]
  exact ofAngles_toHourAngle _ _ _

end Horizon

namespace AzimuthConvention

/-- A convention that is undone leaves the azimuth up to whole turns. -/
theorem ofAngles_toNorthEast (c : AzimuthConvention) (azimuth altitude : ℝ) :
    Direction.ofAngles (c.toNorthEast (Angle.positive (c.ofNorthEast azimuth))) altitude =
      .ofAngles azimuth altitude := by
  rw [Direction.ofAngles_eq, Direction.ofAngles_eq]
  cases c with
  | northEast => simp only [ofNorthEast, toNorthEast, Angle.cos_positive, Angle.sin_positive]
  | southWest =>
    simp only [ofNorthEast, toNorthEast, Angle.cos_positive, Angle.sin_positive, Angle.halfTurn_eq,
      Real.cos_add_pi, Real.sin_add_pi, Real.cos_sub_pi, Real.sin_sub_pi, neg_neg]

end AzimuthConvention

namespace Engine

variable [NumberText ℝ] {site : Site ℝ} {instant : Instant} {time : ResolvedTime ℝ}

noncomputable def meridian (e : Engine) (time : ResolvedTime ℝ) (site : Site ℝ) : ℝ :=
  e.strategy.siderealTime time + site.longitudeAngle

theorem localSiderealTime_eq (e : Engine) (hsite : site.check = .ok ())
    (htime : ResolvedTime.resolve instant = .ok time) :
    e.localSiderealTime instant site = .ok (e.meridian time site) := by
  simp only [localSiderealTime, hsite, htime, meridian]
  rfl

theorem toHorizon_eq (e : Engine) (star : SkyPosition ℝ) (air : Atmosphere ℝ)
    (hsite : site.check = .ok ()) (htime : ResolvedTime.resolve instant = .ok time) :
    e.toHorizon star instant site air false =
      let a := Horizon.ofHourAngle (e.meridian time site - star.longitude) star.latitude
        site.latitudeAngle
      .ok (.make (e.convention.ofNorthEast a.1) a.2 (.horizon e.convention) instant) := by
  simp only [toHorizon, standing, hsite, htime]
  rfl

theorem toHourAngle_eq (e : Engine) (horizon : SkyPosition ℝ) {c : AzimuthConvention}
    (hframe : horizon.frame = .horizon c) (hsite : site.check = .ok ())
    (htime : ResolvedTime.resolve instant = .ok time) :
    e.toHourAngle horizon instant site =
      let a := Horizon.toHourAngle (c.toNorthEast horizon.longitude) horizon.latitude
        site.latitudeAngle
      .ok (.make a.1 a.2 .hourAngle instant) := by
  simp only [toHourAngle, hsite, htime, hframe]
  rfl

/-- A position comes back from the horizon: its declination wherever it stands, and its hour angle
unless it is at a pole of the sky. This includes the zenith, where the azimuth is lost, and a site at
a pole of the Earth. -/
theorem toHourAngle_toHorizon (e : Engine) (star : SkyPosition ℝ) (air : Atmosphere ℝ)
    (hsite : site.check = .ok ()) (htime : ResolvedTime.resolve instant = .ok time)
    (hstar : star.latitude ∈ Angle.latitudes) :
    ∃ sidereal horizon back, e.localSiderealTime instant site = .ok sidereal ∧
      e.toHorizon star instant site air false = .ok horizon ∧
      e.toHourAngle horizon instant site = .ok back ∧ back.frame = .hourAngle ∧
      back.latitude = star.latitude ∧ (Real.cos star.latitude ≠ 0 →
        back.longitude = Angle.signed (sidereal - star.longitude)) := by
  obtain ⟨h, hh⟩ : ∃ h, h = e.meridian time site - star.longitude := ⟨_, rfl⟩
  obtain ⟨a, ha⟩ : ∃ a, a = Horizon.ofHourAngle h star.latitude site.latitudeAngle := ⟨_, rfl⟩
  have haltitude : a.2 ∈ Angle.latitudes := by
    rw [ha, Horizon.ofHourAngle_eq_angles]
    exact Direction.angles_latitude_mem _
  obtain ⟨b, hb⟩ : ∃ b, b = Horizon.toHourAngle
      (e.convention.toNorthEast (Angle.positive (e.convention.ofNorthEast a.1))) a.2
      site.latitudeAngle := ⟨_, rfl⟩
  have hback : Direction.ofAngles b.1 b.2 = .ofAngles h star.latitude := by
    rw [hb, Horizon.ofAngles_toHourAngle, AzimuthConvention.ofAngles_toNorthEast, ha,
      Horizon.ofAngles_ofHourAngle, Horizon.exchange_exchange]
  have hdeclination : b.2 ∈ Angle.latitudes := by
    rw [hb, Horizon.toHourAngle_eq_angles]
    exact Direction.angles_latitude_mem _
  obtain ⟨hlatitude, hlongitude⟩ := Direction.ofAngles_inj hback hstar hdeclination
  refine ⟨_, _, .make b.1 b.2 .hourAngle instant, e.localSiderealTime_eq hsite htime,
    e.toHorizon_eq star air hsite htime, ?_, rfl, ?_, ?_⟩
  · rw [e.toHourAngle_eq _ rfl hsite htime, ← hh, ← ha, hb]
    simp only [SkyPosition.make, Frame.normalize, Frame.hasSignedLongitude, Bool.false_eq_true,
      if_false, Angle.latitude_of_mem haltitude]
  · exact (Angle.latitude_of_mem hdeclination).trans hlatitude
  · rw [← hh]
    exact hlongitude

omit [NumberText ℝ]

noncomputable def zenithStar (e : Engine) (time : ResolvedTime ℝ) (site : Site ℝ) : SkyPosition ℝ :=
  ⟨e.meridian time site, site.latitudeAngle, .apparent, time.instant⟩

theorem toHourAngle_toHorizon_zenith : letI := roundedText
    let e : Engine := .make .rigorous (some .southWest) .standard
    let site : Site ℝ := ⟨0, 30, 0⟩
    let instant : Instant := ⟨0, .utc⟩
    let star := e.zenithStar (.ofInstant instant) site
    site.check = .ok () ∧ ResolvedTime.resolve instant = .ok (.ofInstant (α := ℝ) instant) ∧
      star.latitude ∈ Angle.latitudes ∧
      ∃ sidereal horizon back, e.localSiderealTime instant site = .ok sidereal ∧
        e.toHorizon star instant site .vacuum false = .ok horizon ∧
        e.toHourAngle horizon instant site = .ok back ∧ back.frame = .hourAngle ∧
        back.latitude = star.latitude ∧ (Real.cos star.latitude ≠ 0 →
          back.longitude = Angle.signed (sidereal - star.longitude)) := by
  let := roundedText
  intro e site instant star
  have hsite : site.check = .ok () := site.check_eq_ok_iff.mpr (by norm_num [site])
  have htime : ResolvedTime.resolve instant = .ok (.ofInstant (α := ℝ) instant) :=
    ResolvedTime.resolve_ofInstant (by decide) (by decide)
  have hstar : star.latitude ∈ Angle.latitudes := by
    have hpi := Real.pi_pos
    have hangle : star.latitude = 30 * (Real.pi / 180.0) := rfl
    rw [hangle, Angle.latitudes]
    norm_num
    constructor <;> linarith
  exact ⟨hsite, htime, hstar, e.toHourAngle_toHorizon star .vacuum hsite htime hstar⟩

end Engine

end TelescopePointing
