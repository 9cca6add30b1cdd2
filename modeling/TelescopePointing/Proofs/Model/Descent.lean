import TelescopePointing.Proofs.Fit.Partial
import TelescopePointing.Proofs.Model.Affine

namespace TelescopePointing

open LeastSquares PartialReal

theorem isAffine_mountModels {siteLatitude : ℝ} {m : PointingModel ℝ}
    (hm : m ∈ mountModels siteLatitude) (n : Nat) (offsets : List (RawOffset ℝ)) :
    IsAffine n (ModelFit.residuals m offsets) := by
  simp only [mountModels, List.mem_cons, List.not_mem_nil, or_false] at hm
  rcases hm with rfl | rfl | rfl
  · exact isAffine_residuals AltAzimuth.linear_terms _ _ _ _ n offsets
  · exact isAffine_residuals (AltAzimuth.linear_terms.append AltAzimuth.linear_harmonicTerms)
      _ _ _ _ n offsets
  · exact isAffine_residuals (Equatorial.linear_terms siteLatitude) _ _ _ _ n offsets

namespace ModelFit

def chosen {α : Type} (pairs : List (StarPair α)) (selected : List Nat) : List (StarPair α) :=
  (validIndices pairs.length selected).filterMap fun i => pairs[i]?

theorem chosen_ne_nil {α : Type} {pairs : List (StarPair α)} {selected : List Nat} {i : Nat}
    (hi : i ∈ selected) (hlt : i < pairs.length) : chosen pairs selected ≠ [] := by
  refine List.ne_nil_of_mem (a := pairs[i]) (List.mem_filterMap.mpr ⟨i, ?_, by simp [hlt]⟩)
  simp [validIndices, hi, hlt]

theorem fit_eq {α : Type} [Scalar α] {pairs : List (StarPair α)} {selected : List Nat} {i : Nat}
    (hi : i ∈ selected) (hlt : i < pairs.length) (m : PointingModel α) (settings : Settings α) :
    fit pairs selected m settings = .ok (onPairs (chosen pairs selected) m settings) := by
  have hpairs : pairs.isEmpty = false := by
    rw [List.isEmpty_eq_false_iff]
    rintro rfl
    simp at hlt
  have hchosen : (chosen pairs selected).isEmpty = false :=
    List.isEmpty_eq_false_iff.mpr (chosen_ne_nil hi hlt)
  unfold fit
  rw [if_neg (by simp [hpairs])]
  exact if_neg (by simpa [chosen] using hchosen)

theorem chosen_lift (pairs : List (StarPair ℝ)) (selected : List Nat) :
    chosen (pairs.map StarPair.lift) selected = (chosen pairs selected).map StarPair.lift := by
  simp [chosen, List.map_filterMap]

end ModelFit

/-- No step is rejected in exact arithmetic, neither for affine residuals nor for a mount whose
formulas have a value at all stars, and no such fit stalls. Every operation on the way has a value,
so the fit is the same when account is kept of those that have none. -/
theorem descends_of_exact (settings : Settings ℝ) (hdamping : 0 < settings.initialDamping)
    (htolerance : 0 ≤ settings.gradientTolerance) (hdifference : 0 < settings.differenceStep) :
    (∀ f initial, IsAffine initial.length f → Descends f initial settings ∧
      ∀ g : Residuals PartialReal, g.Extends f →
        minimize g (initial.map of) settings.lift = (minimize f initial settings).lift) ∧
      ∀ siteLatitude, ∀ m ∈ mountModels siteLatitude,
        ∀ (pairs : List (StarPair ℝ)) (selected : List Nat), (∃ i ∈ selected, i < pairs.length) →
          (∀ p ∈ ModelFit.chosen pairs selected, m.Covers p.catalog) →
            ∃ fitted, ModelFit.fit pairs selected m settings = .ok fitted ∧
              fitted.status ≠ .stalled ∧
              Descends
                (ModelFit.residuals m ((ModelFit.chosen pairs selected).map StarPair.rawOffset))
                m.start settings ∧
              ∃ m' fitted', ModelRegistry.standard.create m.name ⟨of siteLatitude⟩ = .ok m' ∧
                ModelFit.fit (pairs.map StarPair.lift) selected m' settings.lift = .ok fitted' ∧
                fitted'.Extends fitted := by
  refine ⟨fun f initial hf => ⟨hf.descends hdamping htolerance hdifference,
    fun g hg => minimize_lift hg hdifference initial⟩, ?_⟩
  rintro siteLatitude m hm pairs selected ⟨i, hi, hlt⟩ hcovers
  have hdescends := (isAffine_mountModels hm m.start.length
    ((ModelFit.chosen pairs selected).map StarPair.rawOffset)).descends hdamping htolerance
      hdifference
  obtain ⟨m', hcreate, hnames, hextends⟩ := PointingModel.exists_extends hm
  have hfit' := ModelFit.fit_eq hi ((List.length_map StarPair.lift).symm ▸ hlt) m' settings.lift
  rw [ModelFit.chosen_lift] at hfit'
  exact ⟨_, ModelFit.fit_eq hi hlt m settings, hdescends.status, hdescends, m', _, hcreate, hfit',
    ModelFit.onPairs_extends hnames (fun p hp => hextends _ (hcovers p hp)) hdifference⟩

noncomputable def starAt (azimuth altitude miss : ℝ) : StarPair ℝ :=
  ⟨⟨azimuth, altitude, .horizon .northEast, ⟨0, .utc⟩⟩,
    ⟨azimuth + miss, altitude - miss, .horizon .northEast, ⟨0, .utc⟩⟩, 7, none⟩

/-- Stars above, on and below the horizon. -/
noncomputable def scatteredStars : List (StarPair ℝ) := [starAt 1 1 1, starAt 1 0 0, starAt 0 (-1) 1]

theorem standard_settings : 0 < (Settings.standard (α := ℝ)).initialDamping ∧
    0 ≤ (Settings.standard (α := ℝ)).gradientTolerance ∧
    0 < (Settings.standard (α := ℝ)).differenceStep := by
  norm_num [Settings.standard]

theorem descends_of_exact_standard :
    0 < (Settings.standard (α := ℝ)).initialDamping ∧
      0 ≤ (Settings.standard (α := ℝ)).gradientTolerance ∧
      0 < (Settings.standard (α := ℝ)).differenceStep ∧
      Descends (fun p => p.map fun x => x + -1) [0] .standard ∧
      (∀ p ∈ ModelFit.chosen scatteredStars [2, 0], AltAzimuth.basic.Covers p.catalog) ∧
      ∃ fitted fitted', ModelFit.fit scatteredStars [2, 0] AltAzimuth.basic .standard = .ok fitted ∧
        fitted.status ≠ .stalled ∧
        ModelFit.fit (scatteredStars.map StarPair.lift) [2, 0] AltAzimuth.basic .standard =
          .ok fitted' ∧ fitted'.Extends fitted := by
  obtain ⟨hdamping, htolerance, hdifference⟩ := standard_settings
  obtain ⟨haffine, hmount⟩ := descends_of_exact .standard hdamping htolerance hdifference
  have hshift : IsAffine 1 fun p => p.map fun x => x + -1 := by
    refine ⟨[⟨-1, [1]⟩], by simp, fun p hp => ?_⟩
    obtain ⟨x, rfl⟩ := List.length_eq_one_iff.mp hp
    simp [AffineForm.value, add_comm]
  have hchosen : ModelFit.chosen scatteredStars [2, 0] = [starAt 1 1 1, starAt 0 (-1) 1] := rfl
  have hsin : 0 < Real.sin 1 :=
    Real.sin_pos_of_pos_of_lt_pi one_pos (by linarith [Real.two_le_pi])
  have hcovers : ∀ p ∈ ModelFit.chosen scatteredStars [2, 0],
      AltAzimuth.basic.Covers p.catalog := by
    rw [hchosen]
    simp [PointingModel.Covers, starAt, hsin.ne']
  obtain ⟨fitted, hfit, hstatus, -, m', fitted', hcreate, hfit', hextends⟩ :=
    hmount 1 AltAzimuth.basic (by simp [mountModels]) scatteredStars [2, 0]
      ⟨0, by simp, by simp [scatteredStars]⟩ hcovers
  cases (ModelRegistry.create_basic _).symm.trans hcreate
  exact ⟨hdamping, htolerance, hdifference, (haffine _ [0] hshift).1, hcovers, fitted, fitted',
    hfit, hstatus, hfit', hextends⟩

/-- On the horizon a model that follows altitudes has a residual without a value, and its fit stalls
as soon as its budget lets the damping pass the limit. -/
theorem fit_stalls_of_horizon {siteLatitude : PartialReal} {m : PointingModel PartialReal}
    (hm : m ∈ mountModels siteLatitude) (hframe : m.frame = .horizon) {settings : Settings ℝ}
    {n : Nat} (hn : n < settings.maxIterations)
    (hlimit : settings.maxDamping < settings.initialDamping * settings.dampingUp ^ (n + 1))
    {pairs : List (StarPair ℝ)} {selected : List Nat} {q : StarPair ℝ}
    (hq : q ∈ ModelFit.chosen pairs selected) (hhorizon : Real.sin q.catalog.latitude = 0) :
    ∃ fitted, ModelFit.fit (pairs.map StarPair.lift) selected m settings.lift = .ok fitted ∧
      fitted.status = .stalled := by
  obtain ⟨i, hi, hlt⟩ : ∃ i ∈ selected, i < pairs.length := by
    obtain ⟨i, hi, -⟩ := List.mem_filterMap.mp hq
    rw [ModelFit.validIndices, List.mem_filter, List.mem_range, List.contains_iff_mem] at hi
    exact ⟨i, hi.2, hi.1⟩
  have hfit := ModelFit.fit_eq hi ((List.length_map StarPair.lift).symm ▸ hlt) m settings.lift
  rw [ModelFit.chosen_lift] at hfit
  exact ⟨_, hfit, ModelFit.onPairs_stalls hm hframe hq hhorizon hn hlimit⟩

theorem fit_stalls_on_horizon :
    (∃ p ∈ ModelFit.chosen scatteredStars [1], Real.sin p.catalog.latitude = 0) ∧
      ModelRegistry.standard.create "condon1992" ⟨of 0⟩ = .ok AltAzimuth.basic ∧
      0 < (Settings.standard (α := ℝ)).initialDamping ∧
      0 ≤ (Settings.standard (α := ℝ)).gradientTolerance ∧
      0 < (Settings.standard (α := ℝ)).differenceStep ∧
      ∃ fitted, ModelFit.fit (scatteredStars.map StarPair.lift) [1] AltAzimuth.basic .standard =
        .ok fitted ∧ fitted.status = .stalled := by
  obtain ⟨hdamping, htolerance, hdifference⟩ := standard_settings
  have hchosen : starAt 1 0 0 ∈ ModelFit.chosen scatteredStars [1] := List.mem_singleton.mpr rfl
  have hhorizon : Real.sin (starAt 1 0 0).catalog.latitude = 0 := Real.sin_zero
  have hpast : (Settings.standard (α := ℝ)).maxDamping <
      Settings.standard.initialDamping * Settings.standard.dampingUp ^ (15 + 1) := by
    norm_num [Settings.standard]
  have hbudget : 15 < (Settings.standard (α := ℝ)).maxIterations := by decide
  have hbasic : (AltAzimuth.basic : PointingModel PartialReal) ∈ mountModels (of 0) :=
    List.mem_cons_self
  exact ⟨⟨_, hchosen, hhorizon⟩, ModelRegistry.create_basic _, hdamping, htolerance, hdifference,
    fit_stalls_of_horizon hbasic rfl hbudget hpast hchosen hhorizon⟩

end TelescopePointing
