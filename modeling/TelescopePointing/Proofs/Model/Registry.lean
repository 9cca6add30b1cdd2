import TelescopePointing.Model.Registry

namespace TelescopePointing

variable {α : Type} [Scalar α]

namespace ModelRegistry

theorem standard_entries : (standard (α := α)).entries =
    [(Equatorial.name, fun o => Equatorial.model o.siteLatitude),
      (AltAzimuth.basicName, fun _ => AltAzimuth.basic),
      (AltAzimuth.harmonicName, fun _ => AltAzimuth.harmonic)] := by
  have hharmonic : precedes AltAzimuth.harmonicName.toList AltAzimuth.basicName.toList = false := by
    decide
  have hequatorial : precedes Equatorial.name.toList AltAzimuth.basicName.toList = true := by decide
  have hne : AltAzimuth.harmonicName ≠ AltAzimuth.basicName := by decide
  simp only [standard, empty, register, insertEntry, hharmonic, hequatorial, if_neg hne,
    Bool.false_eq_true, if_false, if_true]

variable (options : ModelOptions α)

theorem create_equatorial :
    standard.create Equatorial.name options = .ok (Equatorial.model options.siteLatitude) := by
  simp [create, factory?, standard_entries]

theorem create_basic : standard.create AltAzimuth.basicName options = .ok AltAzimuth.basic := by
  simp [create, factory?, standard_entries, List.lookup_cons, AltAzimuth.basicName, Equatorial.name]

theorem create_harmonic :
    standard.create AltAzimuth.harmonicName options = .ok AltAzimuth.harmonic := by
  simp [create, factory?, standard_entries, List.lookup_cons, AltAzimuth.basicName,
    AltAzimuth.harmonicName, Equatorial.name]

end ModelRegistry

def mountModels (siteLatitude : α) : List (PointingModel α) :=
  [AltAzimuth.basic, AltAzimuth.harmonic, Equatorial.model siteLatitude]

theorem mem_mountModels_iff (options : ModelOptions α) (m : PointingModel α) :
    m ∈ mountModels options.siteLatitude ↔
      ∃ name, ModelRegistry.standard.create name options = .ok m := by
  simp only [mountModels, List.mem_cons, List.not_mem_nil, or_false]
  constructor
  · rintro (rfl | rfl | rfl)
    · exact ⟨_, ModelRegistry.create_basic options⟩
    · exact ⟨_, ModelRegistry.create_harmonic options⟩
    · exact ⟨_, ModelRegistry.create_equatorial options⟩
  · rintro ⟨name, h⟩
    unfold ModelRegistry.create at h
    split at h
    next factory hfactory =>
      obtain ⟨before, after, hsplit, _⟩ := List.lookup_eq_some_iff.mp hfactory
      have hmem : (name, factory) ∈ (ModelRegistry.standard (α := α)).entries := by simp [hsplit]
      simp only [ModelRegistry.standard_entries, List.mem_cons, List.not_mem_nil, or_false,
        Prod.mk.injEq] at hmem
      obtain rfl : factory options = m := by simpa using h
      rcases hmem with ⟨_, rfl⟩ | ⟨_, rfl⟩ | ⟨_, rfl⟩ <;> simp
    next => cases h

end TelescopePointing
