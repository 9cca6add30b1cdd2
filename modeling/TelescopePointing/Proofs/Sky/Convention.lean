import TelescopePointing.Proofs.Angle
import TelescopePointing.Observation.Pairing
import TelescopePointing.Proofs.Alike

namespace TelescopePointing

structure SkyPosition.Opposite (p q : SkyPosition ℝ) : Prop where
  longitude : Angle.Opposite p.longitude q.longitude
  latitude : q.latitude = p.latitude
  frames : p.frame = .horizon .northEast ∧ q.frame = .horizon .southWest
  instant : q.instant = p.instant

structure StarPair.Opposite (p q : StarPair ℝ) : Prop where
  catalog : p.catalog.Opposite q.catalog
  mount : p.mount.Opposite q.mount
  id : q.id = p.id
  image : q.image = p.image

theorem AzimuthConvention.ofNorthEast_opposite (azimuth : ℝ) :
    Angle.Opposite (northEast.ofNorthEast azimuth) (southWest.ofNorthEast azimuth) :=
  (Angle.Opposite.sub_halfTurn azimuth).positive

structure RawOffset.Opposite (o o' : RawOffset ℝ) : Prop where
  longitude : Angle.Opposite o.longitude o'.longitude
  latitude : o'.latitude = o.latitude
  longitudeDifference : o'.longitudeDifference = o.longitudeDifference
  latitudeDifference : o'.latitudeDifference = o.latitudeDifference

theorem StarPair.Opposite.rawOffset {p q : StarPair ℝ} (h : p.Opposite q) :
    p.rawOffset.Opposite q.rawOffset where
  longitude := h.catalog.longitude
  latitude := h.catalog.latitude
  longitudeDifference := h.catalog.longitude.signed_sub h.mount.longitude
  latitudeDifference := by
    simp only [StarPair.rawOffset, h.catalog.latitude, h.mount.latitude]

namespace Engine

def inConvention (e : Engine) (c : AzimuthConvention) : Engine := { e with convention := c }

theorem position_opposite (e : Engine) (s : Standing ℝ) (instant : Instant) :
    ((e.inConvention .northEast).position s instant).Opposite
      ((e.inConvention .southWest).position s instant) where
  longitude := (AzimuthConvention.ofNorthEast_opposite s.azimuth).positive
  latitude := rfl
  frames := ⟨rfl, rfl⟩
  instant := rfl

/-- The convention does not show before a standing gets its position. -/
theorem toHorizon_opposite [NumberText ℝ] (e : Engine) (star : SkyPosition ℝ) (instant : Instant)
    (site : Site ℝ) (air : Atmosphere ℝ) (correct : Bool) :
    Alike SkyPosition.Opposite
      ((e.inConvention .northEast).toHorizon star instant site air correct)
      ((e.inConvention .southWest).toHorizon star instant site air correct) :=
  (Alike.refl (fun _ => rfl) (e.standing star instant site air correct)).map
    fun s _ h => h ▸ position_opposite e s instant

end Engine

theorem Observation.pair_opposite [NumberText ℝ] (o : Observation ℝ) (e : Engine) :
    Alike StarPair.Opposite (o.pair (e.inConvention .northEast) .horizon)
      (o.pair (e.inConvention .southWest) .horizon) :=
  (e.toHorizon_opposite o.catalog o.instant o.site o.air true).bind fun _ _ hcatalog =>
    (e.toHorizon_opposite o.mount o.instant o.site .vacuum false).bind fun _ _ hmount =>
      .ok ⟨hcatalog, hmount, rfl, rfl⟩

theorem StarPair.ofObservations_opposite [NumberText ℝ] (observations : List (Observation ℝ))
    (e : Engine) :
    Alike (List.Forall₂ Opposite)
      (ofObservations observations (e.inConvention .northEast) .horizon)
      (ofObservations observations (e.inConvention .southWest) .horizon) :=
  .mapM (fun o => o.pair_opposite e) observations

end TelescopePointing
