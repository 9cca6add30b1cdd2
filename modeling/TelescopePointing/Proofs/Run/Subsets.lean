import TelescopePointing.Proofs.Fit.Indices
import TelescopePointing.Proofs.Run.Tally

namespace TelescopePointing

variable {α : Type}

theorem ModelFit.chosen_eq_at (pairs : List (StarPair α)) (selected : List Nat) :
    chosen pairs selected = StarPair.at pairs (named pairs.length selected).sort := by
  rw [chosen, validIndices_eq_sort]
  rfl

theorem ModelFit.chosen_eq_at_of_ascending {pairs : List (StarPair α)} {indices : List Nat}
    (hascending : indices.Pairwise (· < ·)) (hlt : ∀ i ∈ indices, i < pairs.length) :
    chosen pairs indices = StarPair.at pairs indices := by
  rw [chosen, validIndices_of_ascending hascending hlt]
  rfl

variable [Scalar α]

/-- An outcome is that of a fit to some of the pairs, and there is none if the fit has no pair. -/
def FitOutcome.FitsIndices (run : PointingRun α) (model : PointingModel α)
    (pairs : List (StarPair α)) (indices : List Nat) (answer : Option (FitOutcome α)) : Prop :=
  (ModelFit.fit pairs indices model run.solver).toOption = answer.map (·.fitted)

variable [NumberText α]

theorem PointingRun.Preparation.fitsIndices_of_delivery {σ : Type} {run : PointingRun α}
    {store : ObservationStore α} (p : run.Preparation store) {sink : Sink σ α} {state last : σ}
    {indices : List Nat} {subset : String} {answer : Option (FitOutcome α)}
    (h : run.Delivery p.model sink state (p.refit indices subset) none
      (run.deliveries answer.toList) last)
    (hasked : run.config.refitSubsets = true) (hascending : indices.Pairwise (· < ·))
    (hlt : ∀ i ∈ indices, i < p.pairs.length) :
    FitOutcome.FitsIndices run p.model p.pairs indices answer := by
  have hrefits := p.refits_of_delivery h hasked
  -- A run leaves out a refit only of a subset without stars, which no fit accepts.
  cases answer with
  | none =>
    obtain rfl := hrefits.eq_nil_of_none rfl
    have hnone : p.pairs = [] ∨ ∀ i ∈ ([] : List Nat), p.pairs.length ≤ i := .inr nofun
    obtain ⟨reason, hfit⟩ := ModelFit.fit_eq_error p.model run.solver hnone
    rw [FitOutcome.FitsIndices, hfit]
    rfl
  | some o =>
    obtain ⟨_, -, rfl⟩ := FitOutcome.ofFit_eq_ok_iff.mp (p.analysis_of_refit h rfl)
    have hne : indices ≠ [] := by
      rintro rfl
      cases hrefits.isSome
    obtain ⟨i, hi⟩ := List.exists_mem_of_ne_nil _ hne
    rw [FitOutcome.FitsIndices, ModelFit.fit_eq hi (hlt i hi),
      ModelFit.chosen_eq_at_of_ascending hascending hlt]
    rfl

/-- A fit sees of its selection only which pairs are named. Neither the order of the indices nor how
often one is there nor an index past the pairs makes a difference, and the fit could as well be one
of a list that has the named pairs only. So it is the same whether a run refits a subset or selects
it by its indices. -/
theorem fit_sees_named :
    (∀ (pairs : List (StarPair α)) (selected : List Nat) (m : PointingModel α) settings,
      let sublist := StarPair.at pairs (ModelFit.named pairs.length selected).sort
      ((∃ reason, ModelFit.fit pairs selected m settings = .error (.emptyInput reason)) ↔
        pairs = [] ∨ ∀ i ∈ selected, pairs.length ≤ i) ∧
      ((∃ i ∈ selected, i < pairs.length) →
        ∃ f, ModelFit.fit pairs selected m settings = .ok f ∧
          ModelFit.fit sublist (List.range sublist.length) m settings = .ok f ∧
          f.pointCount = (ModelFit.named pairs.length selected).card) ∧
      ∀ selected' : List Nat, (∀ i < pairs.length, i ∈ selected' ↔ i ∈ selected) →
        ModelFit.fit pairs selected' m settings = ModelFit.fit pairs selected m settings) ∧
    ∀ {σ : Type} (run : PointingRun α) (store : ObservationStore α) (sink : Sink σ α) s t summary,
      (run.run store sink).run s = (.ok summary, t) → run.config.refitSubsets = true →
        ∃ model, run.config.pointingModel run.registry = .ok model ∧
          FitOutcome.FitsIndices run model summary.pairs summary.all.selection.selected
            summary.selected ∧
          FitOutcome.FitsIndices run model summary.pairs summary.all.selection.dropped
            summary.dropped := by
  constructor
  · intro pairs selected m settings sublist
    have hsublist : ModelFit.chosen pairs selected = sublist :=
      ModelFit.chosen_eq_at pairs selected
    refine ⟨⟨fun h => ?_, ModelFit.fit_eq_error m settings⟩, fun h => ?_,
      fun _ => ModelFit.fit_congr m settings⟩
    · by_contra hnamed
      push Not at hnamed
      obtain ⟨reason, hfit⟩ := h
      cases hfit.symm.trans (ModelFit.fit_chosen m settings hnamed.2).1
    · have hfits := ModelFit.fit_chosen m settings h
      rw [hsublist] at hfits
      refine ⟨_, hfits.1, hfits.2, ?_⟩
      rw [← ModelFit.length_chosen, hsublist]
      rfl
  · intro σ run store sink s t summary hrun hasked
    obtain ⟨_, events, _, hcourse⟩ := PointingRun.course_of_run hrun
    cases hcourse with
    | @completed all selected dropped _ _ _ _ p rest h _ hselected hdropped _ _ =>
      have hlt := fun i => run.analysis_selection h (i := i)
      obtain ⟨hup, hdown⟩ := (FitOutcome.ofFit_tallies h).ascending
      exact ⟨p.model, p.configured,
        p.fitsIndices_of_delivery hselected hasked hup fun i hi => hlt i (.inl hi),
        p.fitsIndices_of_delivery hdropped hasked hdown fun i hi => hlt i (.inr hi)⟩

theorem fit_sees_named_twice : letI := roundedText
    (∃ f : FittedModel ℝ,
      ModelFit.fit scatteredStars [2, 5, 0, 2] AltAzimuth.basic .standard = .ok f ∧
      ModelFit.fit scatteredStars [0, 2] AltAzimuth.basic .standard = .ok f ∧ f.pointCount = 2) ∧
    ∃ summary t, (refitting.run (.ofList threeStars) tagSink).run (.start []) =
        (.ok summary, t) ∧ ∃ model,
      FitOutcome.FitsIndices refitting model summary.pairs summary.all.selection.selected
        summary.selected ∧
      FitOutcome.FitsIndices refitting model summary.pairs summary.all.selection.dropped
        summary.dropped := by
  let := roundedText
  obtain ⟨hfit, hrefits⟩ := fit_sees_named (α := ℝ)
  obtain ⟨-, hfits, hsame⟩ := hfit scatteredStars [2, 5, 0, 2] AltAzimuth.basic .standard
  obtain ⟨f, hf, -, hcount⟩ := hfits ⟨0, by decide, by simp [scatteredStars]⟩
  have hnamed : ∀ i < scatteredStars.length, i ∈ [0, 2] ↔ i ∈ [2, 5, 0, 2] := by
    change ∀ i < 3, _
    decide
  obtain ⟨summary, t, hrun, -⟩ := refitting_succeeds (.start [])
  obtain ⟨model, -, hsubsets⟩ := hrefits refitting _ tagSink _ t summary hrun rfl
  exact ⟨⟨f, hf, (hsame [0, 2] hnamed).trans hf, hcount⟩, summary, t, hrun, model, hsubsets⟩

end TelescopePointing
