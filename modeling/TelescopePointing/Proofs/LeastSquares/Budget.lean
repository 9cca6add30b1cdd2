import TelescopePointing.Proofs.LeastSquares.BestPoint

namespace TelescopePointing.LeastSquares

variable {α : Type} [Scalar α]

def Settings.withBudget (settings : Settings α) (budget : Nat) : Settings α :=
  { settings with maxIterations := budget }

/-- The state in which a search is cut off by its budget, unless an iteration ends it before. -/
def cutOff? (f : Residuals α) (settings : Settings α) : Nat → State α → Option (State α)
  | 0, s => some s
  | budget + 1, s =>
    match advance f settings s with
    | .stop _ _ => none
    | .go next => cutOff? f settings budget next

section Search

variable {f : Residuals α} {settings : Settings α} {budget : Nat} {s t : State α}

theorem advance_stop_status {x : Point α} {status : FitStatus}
    (h : advance f settings s = .stop x status) : status ≠ .maxIterations := by
  unfold advance at h
  split at h
  · obtain rfl := (Progress.stop.inj h).2
    nofun
  · rw [raiseDamping_stop h]
    nofun
  · split at h
    · rw [accept_stop h]
      nofun
    · split at h
      · obtain rfl := (Progress.stop.inj h).2
        nofun
      · rw [raiseDamping_stop h]
        nofun

/-- A search that is cut off goes on from there when it may. -/
theorem iterate_of_cutOff (h : cutOff? f settings budget s = some t) (more done : Nat) :
    iterate f settings (budget + more) done s = iterate f settings more (done + budget) t := by
  induction budget generalizing done s with
  | zero =>
    obtain rfl : s = t := Option.some.inj h
    rw [Nat.zero_add, Nat.add_zero]
  | succ budget ih =>
    rw [Nat.succ_add]
    cases hadvance : advance f settings s with
    | stop x status => simp [cutOff?, hadvance] at h
    | go next =>
      simp only [cutOff?, hadvance] at h
      simp only [iterate, hadvance]
      rw [ih h, Nat.add_right_comm, Nat.add_assoc]

/-- A search that an iteration ends has no use for a larger budget. -/
theorem iterate_of_not_cutOff (h : cutOff? f settings budget s = none) (more done : Nat) :
    iterate f settings (budget + more) done s = iterate f settings budget done s ∧
      (iterate f settings budget done s).status ≠ .maxIterations := by
  induction budget generalizing done s with
  | zero => cases h
  | succ budget ih =>
    rw [Nat.succ_add]
    cases hadvance : advance f settings s with
    | stop x status =>
      simp only [iterate, hadvance, true_and]
      exact advance_stop_status hadvance
    | go next =>
      simp only [cutOff?, hadvance] at h
      simp only [iterate, hadvance]
      exact ih h (done + 1)

theorem mem_examined_of_cutOff (h : cutOff? f settings budget s = some t) :
    t ∈ examined f settings (budget + 1) s := by
  induction budget generalizing s with
  | zero =>
    obtain rfl : s = t := Option.some.inj h
    exact List.mem_cons_self
  | succ budget ih =>
    cases hadvance : advance f settings s with
    | stop x status => simp [cutOff?, hadvance] at h
    | go next =>
      simp only [cutOff?, hadvance] at h
      rw [examined, hadvance]
      exact List.mem_cons_of_mem s (ih h)

theorem length_examined_le : (examined f settings budget s).length ≤ budget := by
  induction budget generalizing s with
  | zero => exact Nat.zero_le 0
  | succ budget ih =>
    cases hadvance : advance f settings s with
    | stop x status => simp [examined, hadvance]
    | go next => simpa [examined, hadvance] using ih

theorem examined_eq_nil_iff : examined f settings budget s = [] ↔ budget = 0 := by
  cases budget <;> simp [examined]

end Search

/-- The settings give a search its budget and do not change its iterations. -/
theorem iterate_withBudget (f : Residuals α) (settings : Settings α) (n budget done : Nat)
    (s : State α) :
    iterate f (settings.withBudget n) budget done s = iterate f settings budget done s := by
  induction budget generalizing done s with
  | zero => rfl
  | succ budget ih =>
    have hadvance : advance f (settings.withBudget n) s = advance f settings s := rfl
    simp only [iterate, hadvance, ih]

theorem minimize_withBudget (f : Residuals α) (initial : List α) (settings : Settings α) (n : Nat) :
    minimize f initial (settings.withBudget n) =
      if (Point.at f initial).cost == 0.0 || initial.isEmpty then
        (Point.at f initial).result 0 .converged
      else iterate f settings n 0 ⟨.at f initial, settings.initialDamping⟩ := by
  simp only [minimize, iterate_withBudget]
  rfl

structure WithinBudget (f : Residuals α) (initial : List α) (budget : Nat) (r : Result α) :
    Prop where
  atMost : r.iterations ≤ budget
  none_iff : r.iterations = 0 ↔
    (Scalar.normSquared (f initial) == 0.0) = true ∨ initial = [] ∨ budget = 0
  usedUp : r.status = .maxIterations → r.iterations = budget

theorem minimize_withinBudget (f : Residuals α) (initial : List α) (settings : Settings α)
    (n : Nat) : WithinBudget f initial n (minimize f initial (settings.withBudget n)) := by
  rw [minimize_withBudget]
  by_cases hstart : ((Point.at f initial).cost == 0.0 || initial.isEmpty) = true
  · rw [if_pos hstart]
    rw [Bool.or_eq_true, List.isEmpty_iff] at hstart
    refine ⟨Nat.zero_le n, iff_of_true rfl ?_, nofun⟩
    exact hstart.imp_right .inl
  · rw [if_neg hstart]
    rw [Bool.or_eq_true, List.isEmpty_iff] at hstart
    have hcount := iterations_iterate f settings n 0 ⟨.at f initial, settings.initialDamping⟩
    rw [Nat.zero_add] at hcount
    refine ⟨hcount ▸ length_examined_le, ?_, fun hstatus => ?_⟩
    · rw [hcount, List.length_eq_zero_iff, examined_eq_nil_iff, ← or_assoc]
      exact (or_iff_right hstart).symm
    · cases hcut : cutOff? f settings n ⟨.at f initial, settings.initialDamping⟩ with
      | none => exact absurd hstatus (iterate_of_not_cutOff hcut 0 0).2
      | some t =>
        rw [← Nat.add_zero n, iterate_of_cutOff hcut, Nat.zero_add, Nat.add_zero]
        rfl

/-- A result with a larger budget is the same, unless the smaller budget of `m` iterations cut the
search off: then the larger one lets it go on and find a cost that is no higher. -/
structure Extends (m : Nat) (r r' : Result α) : Prop where
  settled : r.status ≠ .maxIterations → r' = r
  iterations : r.status = .maxIterations → m ≤ r'.iterations
  cost : r.status = .maxIterations → r'.cost ≤ r.cost

section Cost

variable [Scalar.LawfulOrder α] {f : Residuals α} {settings : Settings α} {s t : State α}

open Scalar.LawfulOrder

theorem cost_iterate_le (hs : Scalar.Defined s.point.cost) (budget done : Nat) :
    (iterate f settings budget done s).cost ≤ s.point.cost := by
  obtain ⟨iterations, status, hend⟩ := iterate_eq_result f settings budget done s
  rw [hend]
  rcases (finalPoint_best f settings budget s).1 with heq | ⟨hlt, _⟩
  · rw [heq]
    exact le_self hs
  · exact le_of_lt hlt

variable [Scalar.LawfulLess α]

theorem defined_of_cutOff (hs : Scalar.Defined s.point.cost) {budget : Nat}
    (h : cutOff? f settings budget s = some t) : Scalar.Defined t.point.cost := by
  rcases examined_cost f settings (budget + 1) s t (mem_examined_of_cutOff h) with heq | hlt
  · rwa [heq]
  · exact Scalar.LawfulLess.defined_of_lt hlt

theorem iterate_extends (hs : Scalar.Defined s.point.cost) {m n : Nat} (hmn : m ≤ n) :
    Extends m (iterate f settings m 0 s) (iterate f settings n 0 s) := by
  obtain ⟨more, rfl⟩ := Nat.exists_eq_add_of_le hmn
  cases hcut : cutOff? f settings m s with
  | none =>
    obtain ⟨hsame, hstatus⟩ := iterate_of_not_cutOff hcut more 0
    exact ⟨fun _ => hsame, fun h => absurd h hstatus, fun h => absurd h hstatus⟩
  | some t =>
    have hend : iterate f settings m 0 s = t.point.result m .maxIterations := by
      have h := iterate_of_cutOff hcut 0 0
      rwa [Nat.zero_add] at h
    have hmore := iterate_of_cutOff hcut more 0
    rw [Nat.zero_add] at hmore
    rw [hend, hmore]
    refine ⟨fun h => absurd rfl h, fun _ => ?_, fun _ => ?_⟩
    · rw [iterations_iterate]
      exact Nat.le_add_right m _
    · exact cost_iterate_le (defined_of_cutOff hs hcut) more m

end Cost

/-- A larger budget only extends a search. -/
theorem minimize_budgets [Scalar.LawfulOrder α] [Scalar.LawfulLess α] (f : Residuals α)
    (initial : List α) (settings : Settings α) :
    (Scalar.Defined (Scalar.normSquared (f initial)) → ∀ m n, m ≤ n →
      Extends m (minimize f initial (settings.withBudget m))
        (minimize f initial (settings.withBudget n))) ∧
    ∀ n, WithinBudget f initial n (minimize f initial (settings.withBudget n)) := by
  refine ⟨fun hdefined m n hmn => ?_, minimize_withinBudget f initial settings⟩
  rw [minimize_withBudget, minimize_withBudget]
  split
  · exact ⟨fun _ => rfl, nofun, nofun⟩
  · exact iterate_extends hdefined hmn

def rootSearch (budget : Nat) : Result Float :=
  minimize (fun p => p.map fun x => x * x - 2.0) [1.0] (Settings.standard.withBudget budget)

theorem minimize_budgets_root :
    Scalar.Defined (Scalar.normSquared ([(1.0 : Float)].map fun x => x * x - 2.0)) ∧
      ((rootSearch 2).status = .maxIterations ∧ 2 ≤ (rootSearch 9).iterations ∧
        (rootSearch 9).cost ≤ (rootSearch 2).cost) ∧
      ((rootSearch 6).status ≠ .maxIterations ∧ rootSearch 9 = rootSearch 6) ∧
      WithinBudget (fun p => p.map fun x => x * x - 2.0) [1.0] 9 (rootSearch 9) := by
  have hdefined : Scalar.Defined
      (Scalar.normSquared ([(1.0 : Float)].map fun x => x * x - 2.0)) := by
    unfold Scalar.Defined
    decide +kernel
  have hcut : (rootSearch 2).status = .maxIterations := by decide +kernel
  have hsettled : (rootSearch 6).status ≠ .maxIterations := by decide +kernel
  obtain ⟨hextends, hwithin⟩ :=
    minimize_budgets (fun p => p.map fun x => x * x - 2.0) [(1.0 : Float)] .standard
  have htwo : Extends 2 (rootSearch 2) (rootSearch 9) := hextends hdefined 2 9 (by decide)
  have hsix : Extends 6 (rootSearch 6) (rootSearch 9) := hextends hdefined 6 9 (by decide)
  exact ⟨hdefined, ⟨hcut, htwo.iterations hcut, htwo.cost hcut⟩,
    ⟨hsettled, hsix.settled hsettled⟩, hwithin 9⟩

end TelescopePointing.LeastSquares
