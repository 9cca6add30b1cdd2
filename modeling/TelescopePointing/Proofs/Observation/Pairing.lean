import TelescopePointing.Observation.Pairing
import TelescopePointing.Proofs.Alike
import TelescopePointing.Proofs.Engine.Correction

namespace TelescopePointing

variable {α : Type} [Scalar α] [NumberText α]

theorem StarPair.ofObservations_ne_nil {observations : List (Observation α)} {e : Engine}
    {frame : FitFrame} {pairs : List (StarPair α)}
    (h : ofObservations observations e frame = .ok pairs) (hne : observations ≠ []) :
    pairs ≠ [] := by
  cases observations with
  | nil => exact absurd rfl hne
  | cons o rest =>
    rintro rfl
    unfold ofObservations at h
    rw [List.mapM_cons] at h
    obtain ⟨pair, _, h⟩ := bind_eq_ok h
    obtain ⟨pairs, _, h⟩ := bind_eq_ok h
    cases h

theorem ResolvedTime.resolve_eq_error {i : Instant} {cause : PointingError}
    (h : (resolve i : Except _ (ResolvedTime α)) = .error cause) :
    ∃ reason, cause = .invalidTime reason := by
  unfold resolve at h
  dsimp only at h
  split at h
  · cases h
    exact ⟨_, rfl⟩
  · split at h
    · cases h
      exact ⟨_, rfl⟩
    · cases h

section Transform

variable {e : Engine} {instant : Instant} {site : Site α} {cause : PointingError}

theorem Engine.toHorizon_eq_error (hsite : site.check = .ok ()) {star : SkyPosition α}
    {air : Atmosphere α} {correct : Bool}
    (h : e.toHorizon star instant site air correct = .error cause) :
    ∃ reason, cause = .invalidTime reason := by
  rcases (e.toHorizon_eq_error_iff air correct cause).mp h with hfault | ⟨-, hfault⟩
  · cases hsite.symm.trans hfault
  · exact ResolvedTime.resolve_eq_error hfault

theorem Engine.toHourAngle_eq_error (hsite : site.check = .ok ()) {horizon : SkyPosition α}
    (h : e.toHourAngle horizon instant site = .error cause) :
    ∃ reason, cause = .invalidTime reason := by
  rcases bind_eq_error h with hfault | ⟨_, -, h⟩
  · cases hsite.symm.trans hfault
  · rcases bind_eq_error h with hfault | ⟨_, -, h⟩
    · exact ResolvedTime.resolve_eq_error hfault
    · cases h

theorem Observation.place_eq_error {o : Observation α} (hsite : o.site.check = .ok ())
    {star : SkyPosition α} {air : Atmosphere α} {correct : Bool} {frame : FitFrame}
    (h : o.place e star air correct frame = .error cause) :
    ∃ reason, cause = .invalidTime reason := by
  cases frame with
  | horizon => exact Engine.toHorizon_eq_error hsite h
  | hourAngle =>
    rcases bind_eq_error h with h | ⟨_, -, h⟩
    · exact Engine.toHorizon_eq_error hsite h
    · exact Engine.toHourAngle_eq_error hsite h

theorem Observation.pair_eq_error {o : Observation α} (hsite : o.site.check = .ok ())
    {frame : FitFrame} (h : o.pair e frame = .error cause) :
    ∃ reason, cause = .invalidTime reason := by
  rcases bind_eq_error h with h | ⟨_, -, h⟩
  · exact Observation.place_eq_error hsite h
  · rcases bind_eq_error h with h | ⟨_, -, h⟩
    · exact Observation.place_eq_error hsite h
    · cases h

/-- At a sound site nothing but its time keeps an observation from being transformed. -/
theorem StarPair.ofObservations_eq_error {observations : List (Observation α)} {frame : FitFrame}
    (hsite : ∀ o ∈ observations, o.site.check = .ok ())
    (h : ofObservations observations e frame = .error cause) :
    ∃ reason, cause = .invalidTime reason := by
  obtain ⟨o, ho, hpair⟩ := exists_of_mapM_eq_error h
  exact Observation.pair_eq_error (hsite o ho) hpair

end Transform

end TelescopePointing
