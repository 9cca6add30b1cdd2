import TelescopePointing.Config.Basic
import TelescopePointing.Proofs.Alike

namespace TelescopePointing

variable {α : Type} [Scalar α] [NumberText α]

theorem Site.check_eq_error {site : Site α} {cause : PointingError}
    (h : site.check = .error cause) : ∃ reason, cause = .invalidSite reason := by
  unfold check at h
  split at h
  · cases h
    exact ⟨_, rfl⟩
  · split at h
    · cases h
    · cases h
      exact ⟨_, rfl⟩

namespace RunConfig

variable {c : RunConfig α} {registry : ModelRegistry α} {cause : PointingError}

/-- Options that are consistent lack nothing that a run asks them for. -/
theorem of_check_eq_ok (h : c.check registry = .ok ()) :
    c.bins ≠ 0 ∧ c.checkedSite = .ok c.site ∧ ∃ m, c.pointingModel registry = .ok m := by
  unfold check at h
  split at h
  · cases h
  split at h
  · cases h
  next hbins =>
  split at h
  · cases h
  obtain ⟨site, hsite, h⟩ := bind_eq_ok h
  obtain rfl : c.site = site := by
    have hmade : c.checkedSite = c.site.check.map fun _ => c.site := rfl
    rw [hmade] at hsite
    cases hcheck : c.site.check with
    | error e =>
      rw [hcheck] at hsite
      cases hsite
    | ok _ =>
      rw [hcheck] at hsite
      exact Except.ok.inj hsite
  refine ⟨hbins, hsite, ?_⟩
  cases hmodel : c.pointingModel registry with
  | error e =>
    rw [hmodel] at h
    cases h
  | ok m => exact ⟨m, rfl⟩

theorem check_eq_ok {m : PointingModel α} (hfits : (c.isEquatorial && c.harmonics) = false)
    (hbins : c.bins ≠ 0)
    (hthreshold : (Scalar.isFinite c.threshold && decide (0.0 ≤ c.threshold)) = true)
    (hsite : c.site.check = .ok ()) (hmodel : c.pointingModel registry = .ok m) :
    c.check registry = .ok () := by
  have hchecked : c.checkedSite = .ok c.site := by
    change c.site.check.map _ = _
    rw [hsite]
    rfl
  unfold check
  rw [hfits, if_neg Bool.false_ne_true, if_neg hbins, hthreshold, hchecked, hmodel]
  rfl

theorem site_check (h : c.check registry = .ok ()) : c.site.check = .ok () := by
  obtain ⟨-, hchecked, -⟩ := of_check_eq_ok h
  change c.site.check.map _ = _ at hchecked
  cases hcheck : c.site.check with
  | ok _ => rfl
  | error _ =>
    rw [hcheck] at hchecked
    cases hchecked

omit [NumberText α] in
theorem pointingModel_eq_ok {m : PointingModel α} (h : c.pointingModel registry = .ok m) :
    registry.create c.modelName ⟨c.site.latitudeAngle⟩ = .ok m ∧ m.frame = c.frame := by
  obtain ⟨model, hcreate, h⟩ := bind_eq_ok h
  split at h
  next hframe =>
    obtain rfl := Except.ok.inj h
    exact ⟨hcreate, hframe⟩
  next => cases h

omit [NumberText α] in
theorem pointingModel_eq_error (h : c.pointingModel registry = .error cause) :
    (∃ reason, cause = .configurationConflict reason) ∨
      ∃ reason, cause = .unknownModel reason := by
  unfold pointingModel ModelRegistry.create at h
  split at h
  next factory _ =>
    change (if _ then _ else _) = _ at h
    split at h
    · cases h
    · cases h
      exact .inl ⟨_, rfl⟩
  next =>
    cases h
    exact .inr ⟨_, rfl⟩

theorem check_eq_error (h : c.check registry = .error cause) :
    (∃ reason, cause = .configurationConflict reason) ∨
      (∃ reason, cause = .invalidConfiguration reason) ∨
      (∃ reason, cause = .invalidSite reason) ∨ ∃ reason, cause = .unknownModel reason := by
  unfold check at h
  split at h
  · cases h
    exact .inl ⟨_, rfl⟩
  split at h
  · cases h
    exact .inr (.inl ⟨_, rfl⟩)
  split at h
  · cases h
    exact .inr (.inl ⟨_, rfl⟩)
  rcases bind_eq_error h with hsite | ⟨_, -, hmodel⟩
  · exact .inr (.inr (.inl (Site.check_eq_error (map_eq_error hsite))))
  · rcases pointingModel_eq_error (map_eq_error hmodel) with hconflict | hunknown
    · exact .inl hconflict
    · exact .inr (.inr (.inr hunknown))

end RunConfig

end TelescopePointing
