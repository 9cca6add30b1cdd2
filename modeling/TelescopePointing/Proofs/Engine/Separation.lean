import TelescopePointing.Proofs.Sky.Separation

namespace TelescopePointing

theorem Horizon.toHourAngle_latitude_mem (azimuth altitude latitude : ℝ) :
    (toHourAngle azimuth altitude latitude).2 ∈ Angle.latitudes := by
  rw [toHourAngle_eq_angles]
  exact Direction.angles_latitude_mem _

/-- The exchange of hour angles and azimuths keeps the product of two directions. -/
theorem Horizon.dot_toHourAngle (l b l' b' latitude : ℝ) :
    let a := toHourAngle l b latitude
    let a' := toHourAngle l' b' latitude
    (Direction.ofAngles a.1 a.2).dot (.ofAngles a'.1 a'.2) =
      (Direction.ofAngles l b).dot (.ofAngles l' b') := by
  dsimp only
  rw [ofAngles_toHourAngle, ofAngles_toHourAngle, dot_exchange]

theorem AzimuthConvention.toNorthEast_modEq (c : AzimuthConvention) (azimuth : ℝ) :
    c.toNorthEast azimuth ≡ azimuth + c.origin [PMOD 2 * Real.pi] := by
  cases c with
  | northEast => simpa only [toNorthEast, origin, add_zero] using Angle.positive_modEq azimuth
  | southWest => exact Angle.positive_modEq (azimuth + Real.pi)

namespace Engine

variable [NumberText ℝ] (e d : Engine) {site : Site ℝ} {instant : Instant} {p q p' q' : SkyPosition ℝ}

/-- Hour angles run opposite to right ascensions, and a convention counts azimuths from another
point: both keep the product of two directions. -/
theorem dot_toHorizon {air air' : Atmosphere ℝ}
    (hp : e.toHorizon p instant site air false = .ok p')
    (hq : e.toHorizon q instant site air' false = .ok q') :
    p'.direction.dot q'.direction = p.direction.dot q.direction := by
  obtain ⟨time, htime, hp'⟩ := e.toHorizon_represents hp
  obtain ⟨time', htime', hq'⟩ := e.toHorizon_represents hq
  obtain rfl : time = time' := Except.ok.inj (htime.symm.trans htime')
  simp only [Bool.false_eq_true, if_false, unrefracted, Horizon.ofHourAngle_eq_toHourAngle] at hp' hq'
  rw [hp'.direction_eq (Horizon.toHourAngle_latitude_mem _ _ _),
    hq'.direction_eq (Horizon.toHourAngle_latitude_mem _ _ _),
    Direction.dot_ofAngles_congr (congrArg _ (sub_sub_sub_cancel_right _ _ _)),
    Horizon.dot_toHourAngle]
  apply Direction.dot_ofAngles_congr
  rw [sub_sub_sub_cancel_left, abs_sub_comm]

theorem dot_toHourAngle (hp : e.toHourAngle p instant site = .ok p')
    (hq : e.toHourAngle q instant site = .ok q') (hconvention : e.conventionOf p = e.conventionOf q) :
    p'.direction.dot q'.direction = p.direction.dot q.direction := by
  have hp' := e.toHourAngle_represents hp
  have hq' := e.toHourAngle_represents hq
  rw [hp'.direction_eq (Horizon.toHourAngle_latitude_mem _ _ _),
    hq'.direction_eq (Horizon.toHourAngle_latitude_mem _ _ _), Horizon.dot_toHourAngle, hconvention,
    Direction.ofAngles_eq_of_modEq (AzimuthConvention.toNorthEast_modEq _ _),
    Direction.ofAngles_eq_of_modEq (AzimuthConvention.toNorthEast_modEq _ _)]
  apply Direction.dot_ofAngles_congr
  rw [add_sub_add_right_eq_sub]

theorem conventionOf_toHorizon {air : Atmosphere ℝ} {correct : Bool}
    (hp : e.toHorizon p instant site air correct = .ok p') :
    d.conventionOf p' = e.convention := by
  obtain ⟨_, -, hp'⟩ := e.toHorizon_represents hp
  rw [conventionOf, hp'.frame_eq]

/-- Without corrections two positions are as far apart on the horizon as they were, and so they are
when they come back as hour angles. A pole of the sky, the zenith and the nadir, where an angle is
lost, are no exception. -/
theorem conversions_keep_separation (hsite : site.check = .ok ()) {time : ResolvedTime ℝ}
    (htime : ResolvedTime.resolve instant = .ok time) (p q : SkyPosition ℝ) (air air' : Atmosphere ℝ) :
    ∃ p' q' p'' q'', e.toHorizon p instant site air false = .ok p' ∧
      e.toHorizon q instant site air' false = .ok q' ∧
      d.toHourAngle p' instant site = .ok p'' ∧ d.toHourAngle q' instant site = .ok q'' ∧
      p'.separation q' = p.separation q ∧ p''.separation q'' = p.separation q := by
  obtain ⟨p', p'', hp, hp'⟩ := e.exists_hourAngle hsite htime d p air false
  obtain ⟨q', q'', hq, hq'⟩ := e.exists_hourAngle hsite htime d q air' false
  have hhorizon := e.dot_toHorizon hp hq
  have hconvention : d.conventionOf p' = d.conventionOf q' :=
    (e.conventionOf_toHorizon d hp).trans (e.conventionOf_toHorizon d hq).symm
  have hback := d.dot_toHourAngle hp' hq' hconvention
  exact ⟨p', q', p'', q'', hp, hq, hp', hq', SkyPosition.separation_congr hhorizon,
    SkyPosition.separation_congr (hback.trans hhorizon)⟩

omit [NumberText ℝ]

theorem conversions_keep_separation_zenith : letI := roundedText
    let e : Engine := .make .rigorous (some .southWest) .standard
    let site : Site ℝ := ⟨0, 30, 0⟩
    let instant : Instant := ⟨0, .utc⟩
    let pole : SkyPosition ℝ := ⟨0, Real.pi / 2, .apparent, instant⟩
    let star := e.zenithStar (.ofInstant instant) site
    site.check = .ok () ∧ ResolvedTime.resolve instant = .ok (.ofInstant (α := ℝ) instant) ∧
      ∃ p' q' p'' q'', e.toHorizon pole instant site .vacuum false = .ok p' ∧
        e.toHorizon star instant site .vacuum false = .ok q' ∧
        e.toHourAngle p' instant site = .ok p'' ∧ e.toHourAngle q' instant site = .ok q'' ∧
        p'.separation q' = pole.separation star ∧ p''.separation q'' = pole.separation star := by
  let := roundedText
  intro e site instant pole star
  have hsite : site.check = .ok () := site.check_eq_ok_iff.mpr (by norm_num [site])
  have htime : ResolvedTime.resolve instant = .ok (.ofInstant (α := ℝ) instant) :=
    ResolvedTime.resolve_ofInstant (by decide) (by decide)
  exact ⟨hsite, htime, e.conversions_keep_separation e hsite htime pole star .vacuum .vacuum⟩

end Engine

end TelescopePointing
