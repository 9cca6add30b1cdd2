import TelescopePointing.Proofs.LeastSquares.Budget

namespace TelescopePointing.LeastSquares

variable {α : Type} [Scalar α]

/-- How a search ends if it is cut off after this iteration. -/
def Progress.status : Progress α → FitStatus
  | go _ => .maxIterations
  | stop _ status => status

/-- The products of the columns of the Jacobian with the residuals, at some parameters. -/
def slope (f : Residuals α) (settings : Settings α) (p : List α) : List α :=
  gradient (jacobian f p settings.differenceStep) (f p)

def HasSlope (f : Residuals α) (settings : Settings α) (p : List α) : Prop :=
  ∀ d ∈ slope f settings p, Scalar.Defined (Scalar.abs d)

def IsFlat (f : Residuals α) (settings : Settings α) (p : List α) : Prop :=
  ∀ d ∈ slope f settings p, Scalar.abs d ≤ settings.gradientTolerance

def IsShort (settings : Settings α) (step p : List α) : Prop :=
  Scalar.norm step ≤ settings.stepTolerance * (Scalar.norm p + settings.stepTolerance)

/-- A gain that brings the cost to zero or takes only a small part of it. -/
def IsLastGain (settings : Settings α) (current next : Point α) : Prop :=
  (next.cost == 0.0) = true ∨ (current.cost - next.cost) / current.cost ≤ settings.costTolerance

def StepSettles (f : Residuals α) (settings : Settings α) (s : State α) : Prop :=
  ∃ step next, trial f settings s = .candidate step next ∧
    (IsShort settings step s.point.parameters ∨
      improves next s.point = true ∧ IsLastGain settings s.point next)

def MeetsTolerance (f : Residuals α) (settings : Settings α) (s : State α) : Prop :=
  IsFlat f settings s.point.parameters ∨ StepSettles f settings s

structure GivesUp (f : Residuals α) (settings : Settings α) (s : State α) : Prop where
  fails : trial f settings s = .singular ∨
    ∃ step next, trial f settings s = .candidate step next ∧ improves next s.point = false
  exceeds : settings.maxDamping < s.damping * settings.dampingUp

inductive Verdict (f : Residuals α) (settings : Settings α) (s : State α) : FitStatus → Prop
  | converged (h : MeetsTolerance f settings s) : Verdict f settings s .converged
  | stalled (h : ¬ MeetsTolerance f settings s) (hgives : GivesUp f settings s) :
    Verdict f settings s .stalled
  | maxIterations (h : ¬ MeetsTolerance f settings s) (hgives : ¬ GivesUp f settings s) :
    Verdict f settings s .maxIterations

section Iteration

variable {f : Residuals α} {settings : Settings α} {s : State α}

theorem Verdict.converged_iff {status : FitStatus} (h : Verdict f settings s status) :
    status = .converged ↔ MeetsTolerance f settings s := by
  cases h with
  | converged h => exact iff_of_true rfl h
  | stalled h _ => exact iff_of_false nofun h
  | maxIterations h _ => exact iff_of_false nofun h

theorem Verdict.stalled_iff {status : FitStatus} (h : Verdict f settings s status) :
    status = .stalled ↔ ¬ MeetsTolerance f settings s ∧ GivesUp f settings s := by
  cases h with
  | converged h => exact iff_of_false nofun fun hnot => hnot.1 h
  | stalled h hgives => exact iff_of_true rfl ⟨h, hgives⟩
  | maxIterations _ hgives => exact iff_of_false nofun fun hnot => hgives hnot.2

theorem Verdict.maxIterations_iff {status : FitStatus} (h : Verdict f settings s status) :
    status = .maxIterations ↔ ¬ MeetsTolerance f settings s ∧ ¬ GivesUp f settings s := by
  cases h with
  | converged h => exact iff_of_false nofun fun hnot => hnot.1 h
  | stalled _ hgives => exact iff_of_false nofun fun hnot => hnot.2 hgives
  | maxIterations h hgives => exact iff_of_true rfl ⟨h, hgives⟩

theorem isSmallStep_iff {step p : List α} :
    isSmallStep settings step p = true ↔ IsShort settings step p := decide_eq_true_iff

/-- What a state tries starts with the test of its gradient. -/
theorem trial_flat_iff [Scalar.LawfulLE α] {n : Nat} (hs : s.point.Evaluated f n) (hn : n ≠ 0)
    (hslope : HasSlope f settings s.point.parameters) :
    trial f settings s = .flat ↔ IsFlat f settings s.point.parameters := by
  have hgradient : gradient (jacobian f s.point.parameters settings.differenceStep)
      s.point.residuals = slope f settings s.point.parameters :=
    congrArg (gradient _) (congrArg Point.residuals hs.eq)
  have hne : (slope f settings s.point.parameters).map Scalar.abs ≠ [] := by
    intro hnil
    have hlength := congrArg List.length hnil
    simp only [List.length_map, slope, length_gradient, length_jacobian, hs.length] at hlength
    exact hn hlength
  have hlargest := Scalar.largest_le_iff hne (List.forall_mem_map.mpr hslope)
    (t := settings.gradientTolerance)
  rw [List.forall_mem_map] at hlargest
  refine Iff.trans ?_ hlargest
  simp only [trial, hgradient]
  by_cases hflat : Scalar.largest ((slope f settings s.point.parameters).map Scalar.abs) ≤
      settings.gradientTolerance
  · exact iff_of_true (if_pos hflat) hflat
  · refine iff_of_false ?_ hflat
    rw [if_neg hflat]
    split <;> nofun

theorem stepSettles_iff {step : List α} {next : Point α}
    (h : trial f settings s = .candidate step next) : StepSettles f settings s ↔
      IsShort settings step s.point.parameters ∨
        improves next s.point = true ∧ IsLastGain settings s.point next := by
  constructor
  · rintro ⟨step', next', h', hsettles⟩
    obtain ⟨rfl, rfl⟩ := Trial.candidate.inj (h.symm.trans h')
    exact hsettles
  · exact fun hsettles => ⟨step, next, h, hsettles⟩

theorem accept_status (step : List α) (next : Point α) :
    (IsShort settings step s.point.parameters ∨ IsLastGain settings s.point next) ∧
        (accept settings s step next).status = .converged ∨
      ¬ (IsShort settings step s.point.parameters ∨ IsLastGain settings s.point next) ∧
        (accept settings s step next).status = .maxIterations := by
  unfold accept
  dsimp only
  split
  next h =>
    refine .inl ⟨?_, rfl⟩
    simp only [Bool.or_eq_true, decide_eq_true_eq, isSmallStep_iff] at h
    exact h.symm
  next h =>
    refine .inr ⟨?_, rfl⟩
    simp only [Bool.or_eq_true, decide_eq_true_eq, isSmallStep_iff] at h
    exact fun hends => h hends.symm

theorem raiseDamping_status :
    settings.maxDamping < s.damping * settings.dampingUp ∧
        (raiseDamping settings s).status = .stalled ∨
      ¬ settings.maxDamping < s.damping * settings.dampingUp ∧
        (raiseDamping settings s).status = .maxIterations := by
  unfold raiseDamping
  dsimp only
  split
  next h => exact .inl ⟨h, rfl⟩
  next h => exact .inr ⟨h, rfl⟩

/-- Where no better point is found and no tolerance is met, the damping decides. -/
theorem raiseDamping_verdict (h : ¬ MeetsTolerance f settings s)
    (hfails : trial f settings s = .singular ∨
      ∃ step next, trial f settings s = .candidate step next ∧ improves next s.point = false) :
    Verdict f settings s (raiseDamping settings s).status := by
  rcases raiseDamping_status (s := s) with ⟨hmore, hr⟩ | ⟨hmore, hr⟩
  · rw [hr]
    exact .stalled h ⟨hfails, hmore⟩
  · rw [hr]
    exact .maxIterations h fun hgives => hmore hgives.exceeds

theorem advance_verdict [Scalar.LawfulLE α] {n : Nat} (hs : s.point.Evaluated f n) (hn : n ≠ 0)
    (hslope : HasSlope f settings s.point.parameters) :
    Verdict f settings s (advance f settings s).status := by
  have hflat := trial_flat_iff hs hn hslope
  unfold advance
  cases htrial : trial f settings s with
  | flat => exact .converged (.inl (hflat.mp htrial))
  | singular =>
    refine raiseDamping_verdict ?_ (.inl htrial)
    rintro (hmeets | ⟨step, next, hstep, -⟩)
    · cases htrial.symm.trans (hflat.mpr hmeets)
    · cases htrial.symm.trans hstep
  | candidate step next =>
    have hsteep : ¬ IsFlat f settings s.point.parameters := by
      intro hmeets
      cases htrial.symm.trans (hflat.mpr hmeets)
    have hsettles := stepSettles_iff htrial
    dsimp only
    by_cases himproves : improves next s.point = true
    · rw [if_pos himproves]
      rcases accept_status (s := s) step next with ⟨h, hr⟩ | ⟨h, hr⟩
      · rw [hr]
        refine .converged (.inr (hsettles.mpr ?_))
        exact h.imp_right fun hgain => ⟨himproves, hgain⟩
      · rw [hr]
        refine .maxIterations ?_ ?_
        · rintro (hmeets | hmeets)
          · exact hsteep hmeets
          · exact h ((hsettles.mp hmeets).imp_right And.right)
        · rintro ⟨hsingular | ⟨step', next', hstep, hworse⟩, -⟩
          · cases htrial.symm.trans hsingular
          · obtain ⟨rfl, rfl⟩ := Trial.candidate.inj (htrial.symm.trans hstep)
            rw [himproves] at hworse
            cases hworse
    · rw [if_neg himproves]
      by_cases hshort : isSmallStep settings step s.point.parameters = true
      · rw [if_pos hshort]
        exact .converged (.inr (hsettles.mpr (.inl (isSmallStep_iff.mp hshort))))
      · rw [if_neg hshort]
        refine raiseDamping_verdict ?_ (.inr ⟨step, next, htrial, Bool.eq_false_iff.mpr himproves⟩)
        rintro (hmeets | hmeets)
        · exact hsteep hmeets
        · rcases hsettles.mp hmeets with hmeets | ⟨hbetter, -⟩
          · exact hshort (isSmallStep_iff.mpr hmeets)
          · exact himproves hbetter

theorem advance_flat (h : trial f settings s = .flat) :
    (advance f settings s).point = s.point := by
  simp only [advance, h]
  rfl

end Iteration

section Search

variable {f : Residuals α} {settings : Settings α}

/-- A search ends as the last state that it examines calls for. -/
theorem iterate_of_getLast {budget : Nat} {s t : State α}
    (h : t ∈ (examined f settings budget s).getLast?) (done : Nat) :
    ∃ iterations, iterate f settings budget done s =
      (advance f settings t).point.result iterations (advance f settings t).status := by
  induction budget generalizing s done with
  | zero => cases h
  | succ budget ih =>
    cases hadvance : advance f settings s with
    | stop x status =>
      simp only [examined, hadvance, List.getLast?_singleton, Option.mem_some_iff] at h
      refine ⟨done + 1, ?_⟩
      rw [← h, hadvance]
      simp only [iterate, hadvance]
      rfl
    | go next =>
      simp only [examined, hadvance, List.getLast?_cons] at h
      simp only [iterate, hadvance]
      cases hlast : (examined f settings budget next).getLast? with
      | none =>
        have hzero := examined_eq_nil_iff.mp (List.getLast?_eq_none_iff.mp hlast)
        rw [hlast] at h
        obtain rfl : s = t := Option.some.inj h
        exact ⟨done + 1, by rw [hzero, hadvance]; rfl⟩
      | some u =>
        rw [hlast] at h
        obtain rfl : u = t := Option.some.inj h
        exact ih hlast (done + 1)

theorem iterate_parameters_of_flat {budget : Nat} {s t : State α}
    (h : t ∈ (examined f settings budget s).getLast?) (hflat : trial f settings t = .flat)
    (done : Nat) : (iterate f settings budget done s).parameters = t.point.parameters := by
  obtain ⟨iterations, hr⟩ := iterate_of_getLast h done
  rw [hr, advance_flat hflat]
  rfl

theorem iterate_maxIterations_iff (budget done : Nat) (s : State α) :
    (iterate f settings budget done s).status = .maxIterations ↔
      ∀ t ∈ examined f settings budget s, (advance f settings t).status = .maxIterations := by
  induction budget generalizing s done with
  | zero => exact iff_of_true rfl (by simp [examined])
  | succ budget ih =>
    cases hadvance : advance f settings s with
    | stop x status =>
      simp only [iterate, examined, hadvance, List.forall_mem_singleton]
      rfl
    | go next =>
      simp only [iterate, examined, hadvance, List.forall_mem_cons]
      rw [ih]
      exact (and_iff_right rfl).symm

theorem iterate_status_iff {status : FitStatus} (hstatus : status ≠ .maxIterations)
    (budget done : Nat) (s : State α) : (iterate f settings budget done s).status = status ↔
      ∃ t ∈ (examined f settings budget s).getLast?, (advance f settings t).status = status := by
  cases hlast : (examined f settings budget s).getLast? with
  | none =>
    have hzero := examined_eq_nil_iff.mp (List.getLast?_eq_none_iff.mp hlast)
    refine iff_of_false ?_ nofun
    rw [hzero]
    exact hstatus.symm
  | some t =>
    obtain ⟨iterations, hr⟩ := iterate_of_getLast hlast done
    rw [hr]
    exact ⟨fun h => ⟨t, rfl, h⟩, by rintro ⟨u, ⟨⟩, h⟩; exact h⟩

end Search

/-- A start that is its own answer, because it has no cost or no parameters. -/
def IsSettled (f : Residuals α) (initial : List α) : Prop :=
  (Scalar.normSquared (f initial) == 0.0) = true ∨ initial = []

section Start

variable {f : Residuals α} {initial : List α} (settings : Settings α)

theorem isSettled_iff :
    IsSettled f initial ↔ ((Point.at f initial).cost == 0.0 || initial.isEmpty) = true := by
  rw [Bool.or_eq_true, List.isEmpty_iff]
  rfl

theorem minimize_of_settled (h : IsSettled f initial) :
    history f initial settings = [] ∧
      minimize f initial settings = (Point.at f initial).result 0 .converged :=
  ⟨if_pos (isSettled_iff.mp h), if_pos (isSettled_iff.mp h)⟩

theorem minimize_of_not_settled (h : ¬ IsSettled f initial) :
    let start : State α := ⟨.at f initial, settings.initialDamping⟩
    history f initial settings = examined f settings settings.maxIterations start ∧
      minimize f initial settings = iterate f settings settings.maxIterations 0 start := by
  rw [isSettled_iff] at h
  exact ⟨if_neg h, if_neg h⟩

variable {settings}

/-- The examined states of a search have parameters, and so the tests apply to them. -/
theorem history_verdict [Scalar.LawfulLE α] (h : ¬ IsSettled f initial)
    (hslope : ∀ s ∈ history f initial settings, HasSlope f settings s.point.parameters) :
    ∀ s ∈ history f initial settings, Verdict f settings s (advance f settings s).status ∧
      (trial f settings s = .flat ↔ IsFlat f settings s.point.parameters) := by
  intro s hs
  have hinitial : initial.length ≠ 0 := fun hzero => h (.inr (List.length_eq_zero_iff.mp hzero))
  have hevaluated : s.point.Evaluated f initial.length := by
    have hmem := hs
    rw [(minimize_of_not_settled settings h).1] at hmem
    exact (examined_evaluated settings settings.maxIterations ⟨rfl, rfl⟩).1 s hmem
  exact ⟨advance_verdict hevaluated hinitial (hslope s hs),
    trial_flat_iff hevaluated hinitial (hslope s hs)⟩

end Start

/-- The status of a result says how the search came to its end. -/
structure IsHonest (f : Residuals α) (initial : List α) (settings : Settings α)
    (r : Result α) : Prop where
  converged_iff : r.status = .converged ↔ IsSettled f initial ∨
    ∃ s ∈ (history f initial settings).getLast?,
      (r.parameters = s.point.parameters ∧ IsFlat f settings r.parameters) ∨
        StepSettles f settings s
  stalled_iff : r.status = .stalled ↔ ∃ s ∈ (history f initial settings).getLast?,
    ¬ MeetsTolerance f settings s ∧ GivesUp f settings s
  maxIterations_iff : r.status = .maxIterations ↔ ¬ IsSettled f initial ∧
    ∀ s ∈ history f initial settings, ¬ MeetsTolerance f settings s ∧ ¬ GivesUp f settings s

/-- A search whose gradients are defined claims no success and no failure that it does not have. -/
theorem minimize_isHonest [Scalar.LawfulLE α] (f : Residuals α) (initial : List α)
    (settings : Settings α)
    (hslope : ∀ s ∈ history f initial settings, HasSlope f settings s.point.parameters) :
    IsHonest f initial settings (minimize f initial settings) := by
  by_cases hsettled : IsSettled f initial
  · obtain ⟨hhistory, hr⟩ := minimize_of_settled settings hsettled
    rw [hr]
    constructor
    · exact iff_of_true rfl (.inl hsettled)
    · exact iff_of_false nofun (by simp [hhistory])
    · exact iff_of_false nofun fun h => h.1 hsettled
  · obtain ⟨hhistory, hr⟩ := minimize_of_not_settled settings hsettled
    have hverdict := history_verdict hsettled hslope
    have hconverged : FitStatus.converged ≠ .maxIterations := nofun
    have hstalled : FitStatus.stalled ≠ .maxIterations := nofun
    have hflat : ∀ s ∈ (history f initial settings).getLast?,
        IsFlat f settings s.point.parameters →
          (minimize f initial settings).parameters = s.point.parameters := by
      intro s hs h
      rw [hr]
      exact iterate_parameters_of_flat (hhistory ▸ hs)
        ((hverdict s (List.mem_of_getLast? hs)).2.mpr h) 0
    constructor
    · rw [or_iff_right hsettled, hr, iterate_status_iff hconverged, ← hhistory, ← hr]
      refine exists_congr fun s => and_congr_right fun hs => ?_
      rw [(hverdict s (List.mem_of_getLast? hs)).1.converged_iff]
      constructor
      · rintro (h | h)
        · exact .inl ⟨hflat s hs h, (hflat s hs h).symm ▸ h⟩
        · exact .inr h
      · rintro (⟨hp, h⟩ | h)
        · exact .inl (hp ▸ h)
        · exact .inr h
    · rw [hr, iterate_status_iff hstalled, ← hhistory]
      refine exists_congr fun s => and_congr_right fun hs => ?_
      exact (hverdict s (List.mem_of_getLast? hs)).1.stalled_iff
    · rw [and_iff_right hsettled, hr, iterate_maxIterations_iff, ← hhistory]
      exact forall₂_congr fun s hs => (hverdict s hs).1.maxIterations_iff

theorem minimize_isHonest_root :
    (∀ s ∈ history (fun p => p.map fun x => x * x - 2.0) [(1.0 : Float)] .standard,
      HasSlope (fun p => p.map fun x => x * x - 2.0) .standard s.point.parameters) ∧
    IsHonest (fun p => p.map fun x => x * x - 2.0) [(1.0 : Float)] .standard
      (minimize (fun p => p.map fun x => x * x - 2.0) [(1.0 : Float)] .standard) := by
  have hslope : ∀ s ∈ history (fun p => p.map fun x => x * x - 2.0) [(1.0 : Float)] .standard,
      HasSlope (fun p => p.map fun x => x * x - 2.0) .standard s.point.parameters := by
    unfold HasSlope Scalar.Defined
    decide +kernel
  exact ⟨hslope, minimize_isHonest _ _ _ hslope⟩

end TelescopePointing.LeastSquares
