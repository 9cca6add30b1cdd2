import TelescopePointing.Proofs.Sky.Convention

namespace TelescopePointing

theorem AzimuthConvention.toNorthEast_ofNorthEast (c : AzimuthConvention) (azimuth : ℝ) :
    c.toNorthEast (Angle.positive (c.ofNorthEast azimuth)) = Angle.positive azimuth := by
  cases c with
  | northEast => simp only [ofNorthEast, toNorthEast, Angle.positive_positive]
  | southWest =>
    simp only [ofNorthEast, toNorthEast, Angle.positive_positive, Angle.positive_positive_add,
      sub_add_cancel]

variable [NumberText ℝ]

/-- Two positions for which no two engines find different hour angles. -/
def SkyPosition.SameHourAngle (p q : SkyPosition ℝ) : Prop :=
  ∀ (d d' : Engine) instant site, d'.toHourAngle q instant site = d.toHourAngle p instant site

namespace Engine

variable (e : Engine) (c c' : AzimuthConvention)

theorem position_sameHourAngle (s : Standing ℝ) (instant : Instant) :
    ((e.inConvention c).position s instant).SameHourAngle
      ((e.inConvention c').position s instant) := by
  intro d d' moment site
  have hnorth : ∀ c : AzimuthConvention, c.toNorthEast
      ((e.inConvention c).position s instant).longitude = Angle.positive s.azimuth :=
    fun c => c.toNorthEast_ofNorthEast s.azimuth
  -- The frames tell the convention, and so only the azimuth from the north is left of it.
  exact congrArg (fun azimuth => do
    site.check
    let _time : ResolvedTime ℝ ← ResolvedTime.resolve moment
    let (hourAngle, declination) :=
      Horizon.toHourAngle azimuth (e.position s instant).latitude site.latitudeAngle
    return SkyPosition.make hourAngle declination .hourAngle moment)
    ((hnorth c').trans (hnorth c).symm)

theorem toHorizon_sameHourAngle (star : SkyPosition ℝ) (instant : Instant) (site : Site ℝ)
    (air : Atmosphere ℝ) (correct : Bool) :
    Alike SkyPosition.SameHourAngle
      ((e.inConvention c).toHorizon star instant site air correct)
      ((e.inConvention c').toHorizon star instant site air correct) :=
  (Alike.refl (fun _ => rfl) (e.standing star instant site air correct)).map
    fun s _ h => h ▸ e.position_sameHourAngle c c' s instant

/-- At a sound site and a time that can be resolved nothing keeps a star from having its hour
angle. -/
theorem exists_hourAngle {site : Site ℝ} {instant : Instant} {time : ResolvedTime ℝ}
    (hsite : site.check = .ok ()) (htime : ResolvedTime.resolve instant = .ok time) (d : Engine)
    (star : SkyPosition ℝ) (air : Atmosphere ℝ) (correct : Bool) :
    ∃ horizon hourAngle, e.toHorizon star instant site air correct = .ok horizon ∧
      d.toHourAngle horizon instant site = .ok hourAngle := by
  simp only [toHorizon, standing, toHourAngle, hsite, htime]
  exact ⟨_, _, rfl, rfl⟩

end Engine

variable (e : Engine) (c c' : AzimuthConvention)

theorem Observation.place_hourAngle (o : Observation ℝ) (star : SkyPosition ℝ) (air : Atmosphere ℝ)
    (correct : Bool) : o.place (e.inConvention c') star air correct .hourAngle =
      o.place (e.inConvention c) star air correct .hourAngle :=
  (e.toHorizon_sameHourAngle c c' star o.instant o.site air correct).bind_eq
    fun _ _ h => h _ _ _ _

theorem Observation.pair_hourAngle (o : Observation ℝ) :
    o.pair (e.inConvention c') .hourAngle = o.pair (e.inConvention c) .hourAngle := by
  unfold pair
  rw [o.place_hourAngle e c c', o.place_hourAngle e c c']

theorem StarPair.ofObservations_hourAngle (observations : List (Observation ℝ)) :
    ofObservations observations (e.inConvention c') .hourAngle =
      ofObservations observations (e.inConvention c) .hourAngle := by
  unfold ofObservations
  simp only [Observation.pair_hourAngle e c c']

end TelescopePointing
