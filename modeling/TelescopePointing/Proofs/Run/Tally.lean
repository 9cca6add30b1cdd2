import TelescopePointing.Proofs.Observation.Pass
import TelescopePointing.Proofs.Residual
import TelescopePointing.Proofs.Run.Cost
import TelescopePointing.Proofs.Run.Effects

namespace TelescopePointing

variable {α : Type}

def StarPair.label (p : StarPair α) : Nat × Option String := (p.id, p.image)

def StarPair.at (pairs : List (StarPair α)) (indices : List Nat) : List (StarPair α) :=
  indices.filterMap fun i => pairs[i]?

theorem StarPair.at_append_perm {pairs : List (StarPair α)} {indices others : List Nat}
    (h : (indices ++ others).Perm (List.range pairs.length)) :
    (StarPair.at pairs indices ++ StarPair.at pairs others).Perm pairs := by
  have hpairs := h.filterMap fun i => pairs[i]?
  rwa [List.filterMap_append, filterMap_range] at hpairs

def ResidualPoint.pair (p : ResidualPoint α) : StarPair α := ⟨p.catalog, p.mount, p.id, p.image⟩

namespace FitOutcome

/-- An outcome has one point for each of some pairs, in their order, and every one of them is either
selected or dropped. -/
structure Tallies (pairs : List (StarPair α)) (o : FitOutcome α) : Prop where
  points : o.points.map (·.pair) = pairs
  pointCount : o.fitted.pointCount = pairs.length
  ascending : o.selection.selected.Pairwise (· < ·) ∧ o.selection.dropped.Pairwise (· < ·)
  partition : (o.selection.selected ++ o.selection.dropped).Perm (List.range pairs.length)

structure Refits (pairs : List (StarPair α)) (indices : List Nat)
    (answer : Option (FitOutcome α)) : Prop where
  isSome : answer.isSome = !indices.isEmpty
  tallies : ∀ o ∈ answer, o.Tallies (StarPair.at pairs indices)

namespace Refits

variable {pairs : List (StarPair α)} {indices : List Nat} {answer : Option (FitOutcome α)}
  (h : Refits pairs indices answer)
include h

theorem eq_nil_of_none (hanswer : answer = none) : indices = [] := by
  have hnone := h.isSome
  rw [hanswer] at hnone
  exact List.isEmpty_iff.mp (by simpa using hnone)

theorem points : (answer.toList.flatMap fun o => o.points.map (·.pair)) =
    StarPair.at pairs indices := by
  cases answer with
  | none =>
    rw [h.eq_nil_of_none rfl]
    rfl
  | some o => simpa using (h.tallies o rfl).points

theorem pointCount : (answer.toList.map (·.fitted.pointCount)).sum =
    (StarPair.at pairs indices).length := by
  cases answer with
  | none =>
    rw [h.eq_nil_of_none rfl]
    rfl
  | some o => simpa using (h.tallies o rfl).pointCount

end Refits

end FitOutcome

namespace RunSummary

variable (s : RunSummary α)

def refits : List (FitOutcome α) := s.selected.toList ++ s.dropped.toList

structure Refitted : Prop where
  selected : FitOutcome.Refits s.pairs s.all.selection.selected s.selected
  dropped : FitOutcome.Refits s.pairs s.all.selection.dropped s.dropped
  once : (s.refits.flatMap fun o => o.points.map (·.pair)).Perm s.pairs
  pointCount : (s.refits.map (·.fitted.pointCount)).sum = s.all.fitted.pointCount

/-- Every row that is read is skipped or comes back as a pair, and no pair is lost on the way to the
points of its fits. -/
structure Tallies (c : RunConfig α) (rows : StoredRows α) : Prop where
  read : s.read = min c.limit rows.length
  count : s.read = s.skipped + s.pairs.length
  labels : ∃ entries : List (StoredObservation α), rows.take s.read = entries.map .ok ∧
    s.pairs.map (·.label) =
      (entries.filter fun o => (o.mount c.mountSource).isSome).map (·.label)
  all : s.all.Tallies s.pairs
  refitted : c.refitSubsets = true → s.Refitted
  unfitted : c.refitSubsets = false → s.selected = none ∧ s.dropped = none

variable {s} in
theorem Refitted.of_refits (hall : s.all.Tallies s.pairs)
    (hselected : FitOutcome.Refits s.pairs s.all.selection.selected s.selected)
    (hdropped : FitOutcome.Refits s.pairs s.all.selection.dropped s.dropped) : s.Refitted := by
  have honce := StarPair.at_append_perm hall.partition
  refine ⟨hselected, hdropped, ?_, ?_⟩
  · rwa [refits, List.flatMap_append, hselected.points, hdropped.points]
  · rw [refits, List.map_append, List.sum_append, hselected.pointCount, hdropped.pointCount,
      ← List.length_append, honce.length_eq, hall.pointCount]

end RunSummary

variable [Scalar α]

theorem ResidualPoint.map_pair_ofPairs (pairs : List (StarPair α)) (f : FittedModel α) :
    (ofPairs pairs f).map (·.pair) = pairs := by
  rw [ofPairs, List.map_map]
  exact List.map_id pairs

theorem FitOutcome.ofFit_tallies {m : PointingModel α} {tag : String} {pairs : List (StarPair α)}
    {settings : LeastSquares.Settings α} {bins : Nat} {threshold : α} {o : FitOutcome α}
    (h : ofFit tag pairs (ModelFit.onPairs pairs m settings) bins threshold = .ok o) :
    o.Tallies pairs := by
  obtain ⟨projections, -, rfl⟩ := ofFit_eq_ok_iff.mp h
  refine ⟨ResidualPoint.map_pair_ofPairs _ _, rfl, Selection.ascending _ _, ?_⟩
  have hpartition := Selection.selected_append_dropped_perm
    (ResidualPoint.ofPairs pairs (ModelFit.onPairs pairs m settings)) threshold
  rwa [ResidualPoint.ofPairs, List.length_map] at hpartition

variable [NumberText α]

theorem Observation.label_of_pair {o : Observation α} {e : Engine} {frame : FitFrame}
    {pair : StarPair α} (h : o.pair e frame = .ok pair) : pair.label = o.label := by
  obtain ⟨catalog, -, h⟩ := bind_eq_ok h
  obtain ⟨mount, -, h⟩ := bind_eq_ok h
  cases h
  rfl

theorem StarPair.labels_of_ofObservations {observations : List (Observation α)} {e : Engine}
    {frame : FitFrame} {pairs : List (StarPair α)}
    (h : ofObservations observations e frame = .ok pairs) :
    pairs.map (·.label) = observations.map (·.label) := by
  have hlabel : ∀ (o : Observation α) pair, o.pair e frame = .ok pair → pair.label = o.label :=
    fun _ _ => Observation.label_of_pair
  exact map_eq_of_forall₂ hlabel (mapM_eq_ok_iff.mp h)

namespace PointingRun

variable {σ : Type} {run : PointingRun α} {store : ObservationStore α}

theorem Loading.accounts (l : run.Loading store) : ∃ rows, store.rows = .ok rows ∧
    l.batch.outcome.batch.read = min run.config.limit rows.length ∧
    l.observations.length + l.batch.outcome.batch.skipped = l.batch.outcome.batch.read ∧
    ∃ entries : List (StoredObservation α),
      rows.take l.batch.outcome.batch.read = entries.map .ok ∧ l.observations.map (·.label) =
        (entries.filter fun o => (o.mount run.config.mountSource).isSome).map (·.label) := by
  obtain ⟨rows, hrows, hbatch⟩ := Batch.load_eq_ok_iff.mp l.opened
  have hfresh : l.batch.Fresh := by
    rw [hbatch]
    exact ⟨rfl, rfl⟩
  have haccounts := hfresh.outcome_accounts l.loaded
  rw [hbatch] at haccounts ⊢
  exact ⟨rows, hrows, haccounts⟩

namespace Preparation

variable (p : run.Preparation store) {sink : Sink σ α} {state last : σ}
  {answer : Option (FitOutcome α)} {indices : List Nat} {subset : String}
  (h : run.Delivery p.model sink state (p.refit indices subset) none
    (run.deliveries answer.toList) last)
include h

theorem refits_of_delivery (hasked : run.config.refitSubsets = true) :
    FitOutcome.Refits p.pairs indices answer := by
  refine ⟨?_, fun _ ho => FitOutcome.ofFit_tallies (p.analysis_of_refit h ho)⟩
  rw [← Option.isSome_map, p.refitTag_of_delivery h, refitTag]
  cases indices <;> simp [hasked]

theorem eq_none_of_delivery (hasked : run.config.refitSubsets = false) : answer = none := by
  have htag := p.refitTag_of_delivery h
  rw [refitTag, if_neg (by simp [hasked]), Option.map_eq_none_iff] at htag
  exact htag

end Preparation

end PointingRun

/-- Nothing of what a run reads is lost, doubled or put in another order before it is reported. -/
theorem run_tallies {σ : Type} (run : PointingRun α) (store : ObservationStore α)
    (sink : Sink σ α) {s t : Session σ α} {summary : RunSummary α}
    (hrun : (run.run store sink).run s = (.ok summary, t)) :
    ∃ rows, store.rows = .ok rows ∧ summary.Tallies run.config rows := by
  obtain ⟨_, events, _, hcourse⟩ := PointingRun.course_of_run hrun
  cases hcourse with
  | @completed all selected dropped _ _ _ _ p rest h _ hselected hdropped _ _ =>
    obtain ⟨rows, hrows, hread, hcount, entries, htaken, hlabels⟩ := p.toLoading.accounts
    have hpairs := StarPair.labels_of_ofObservations p.transformed
    have hlength : p.pairs.length = p.observations.length := by
      simpa using congrArg List.length hpairs
    have hall : all.Tallies p.pairs := FitOutcome.ofFit_tallies h
    refine ⟨rows, hrows, hread, ?_, ⟨entries, htaken, hpairs.trans hlabels⟩, hall, ?_, ?_⟩
    · rw [PointingRun.Preparation.summary, hlength, Nat.add_comm]
      exact hcount.symm
    · intro hasked
      exact .of_refits hall (p.refits_of_delivery hselected hasked)
        (p.refits_of_delivery hdropped hasked)
    · intro hasked
      exact ⟨p.eq_none_of_delivery hselected hasked, p.eq_none_of_delivery hdropped hasked⟩

theorem run_tallies_refits : letI := roundedText
    ∃ summary t rows, (refitting.run (.ofList threeStars) tagSink).run (.start []) =
        (.ok summary, t) ∧ (ObservationStore.ofList threeStars).rows = .ok rows ∧
      summary.Tallies refitting.config rows := by
  let := roundedText
  obtain ⟨summary, t, hrun, -⟩ := refitting_succeeds (.start [])
  obtain ⟨rows, hrows, htallies⟩ := run_tallies refitting _ tagSink hrun
  exact ⟨summary, t, rows, hrun, hrows, htallies⟩

end TelescopePointing
