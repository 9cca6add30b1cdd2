import TelescopePointing.Proofs.LeastSquares.Shape

namespace TelescopePointing.LeastSquares

variable {α : Type} [Scalar α]

/-- The states that a search examines, from one state on and within a budget. -/
def examined (f : Residuals α) (settings : Settings α) : Nat → State α → List (State α)
  | 0, _ => []
  | budget + 1, s =>
    s :: match advance f settings s with
      | .stop _ _ => []
      | .go next => examined f settings budget next

def history (f : Residuals α) (initial : List α) (settings : Settings α) : List (State α) :=
  let start := Point.at f initial
  if start.cost == 0.0 || initial.isEmpty then []
  else examined f settings settings.maxIterations ⟨start, settings.initialDamping⟩

/-- The point that the examination of a state evaluates, if it gets that far. -/
def candidate? (f : Residuals α) (settings : Settings α) (s : State α) : Option (Point α) :=
  match trial f settings s with
  | .candidate _ next => some next
  | _ => none

def Accepts (f : Residuals α) (settings : Settings α) (s : State α) (x : Point α) : Prop :=
  candidate? f settings s = some x ∧ improves x s.point = true

def Progress.point : Progress α → Point α
  | go s => s.point
  | stop x _ => x

def finalPoint (f : Residuals α) (settings : Settings α) : Nat → State α → Point α
  | 0, s => s.point
  | budget + 1, s =>
    match advance f settings s with
    | .stop x _ => x
    | .go next => finalPoint f settings budget next

theorem iterate_eq_result (f : Residuals α) (settings : Settings α) (budget done : Nat)
    (s : State α) :
    ∃ iterations status, iterate f settings budget done s =
      (finalPoint f settings budget s).result iterations status := by
  induction budget generalizing done s with
  | zero => exact ⟨done, .maxIterations, rfl⟩
  | succ budget ih =>
    cases h : advance f settings s with
    | stop x status => exact ⟨done + 1, status, by simp only [iterate, finalPoint, h]⟩
    | go next =>
      obtain ⟨iterations, status, hr⟩ := ih (done + 1) next
      exact ⟨iterations, status, by simp only [iterate, finalPoint, h, hr]⟩

theorem iterations_iterate (f : Residuals α) (settings : Settings α) (budget done : Nat)
    (s : State α) : (iterate f settings budget done s).iterations =
      done + (examined f settings budget s).length := by
  induction budget generalizing done s with
  | zero => rfl
  | succ budget ih =>
    cases h : advance f settings s with
    | stop x status => simp only [iterate, examined, h]; rfl
    | go next =>
      simp only [iterate, examined, h, ih, List.length_cons]
      omega

theorem improves_iff (x y : Point α) :
    improves x y = true ↔ Scalar.isFinite x.cost = true ∧ x.cost < y.cost := by
  simp [improves]

theorem raiseDamping_point (settings : Settings α) (s : State α) :
    (raiseDamping settings s).point = s.point := by
  unfold raiseDamping
  dsimp only
  split <;> rfl

theorem accept_point (settings : Settings α) (s : State α) (step : List α) (next : Point α) :
    (accept settings s step next).point = next := by
  unfold accept
  dsimp only
  split <;> rfl

theorem raiseDamping_stop {settings : Settings α} {s : State α} {x : Point α} {status : FitStatus}
    (h : raiseDamping settings s = .stop x status) : status = .stalled := by
  unfold raiseDamping at h
  dsimp only at h
  split at h
  · exact (Progress.stop.inj h).2.symm
  · cases h

theorem accept_stop {settings : Settings α} {s : State α} {step : List α} {x y : Point α}
    {status : FitStatus} (h : accept settings s step x = .stop y status) :
    status = .converged := by
  unfold accept at h
  dsimp only at h
  split at h
  · exact (Progress.stop.inj h).2.symm
  · cases h

theorem advance_point (f : Residuals α) (settings : Settings α) (s : State α) :
    (∃ x, candidate? f settings s = some x ∧ improves x s.point = true ∧
      (advance f settings s).point = x) ∨
    ((∀ x, candidate? f settings s = some x → improves x s.point = false) ∧
      (advance f settings s).point = s.point) := by
  cases h : trial f settings s with
  | flat => exact .inr ⟨by simp [candidate?, h], by simp only [advance, h]; rfl⟩
  | singular =>
    exact .inr ⟨by simp [candidate?, h], by simp only [advance, h]; exact raiseDamping_point _ _⟩
  | candidate step next =>
    cases hi : improves next s.point with
    | true =>
      refine .inl ⟨next, by simp [candidate?, h], hi, ?_⟩
      simp only [advance, h, hi, if_true]
      exact accept_point _ _ _ _
    | false =>
      refine .inr ⟨by simp [candidate?, h, hi], ?_⟩
      simp only [advance, h, hi]
      by_cases hs : isSmallStep settings step s.point.parameters = true
      · simp [hs, Progress.point]
      · simpa [hs] using raiseDamping_point settings s

theorem trial_candidate {f : Residuals α} {settings : Settings α} {s : State α} {step : List α}
    {next : Point α} (h : trial f settings s = .candidate step next) :
    step.length = s.point.parameters.length ∧
      next = .at f (List.zipWith (· + ·) s.point.parameters step) := by
  unfold trial at h
  dsimp only at h
  split at h
  · cases h
  · split at h
    · cases h
    next delta hdelta =>
      simp only [Trial.candidate.injEq] at h
      obtain ⟨rfl, rfl⟩ := h
      have hl := length_proposal (by simp) hdelta
      rw [length_jacobian] at hl
      exact ⟨hl, rfl⟩

structure Point.Evaluated (f : Residuals α) (n : Nat) (x : Point α) : Prop where
  eq : x = .at f x.parameters
  length : x.parameters.length = n

theorem candidate?_evaluated {f : Residuals α} {settings : Settings α} {s : State α} {x : Point α}
    (h : candidate? f settings s = some x) : x.Evaluated f s.point.parameters.length := by
  unfold candidate? at h
  split at h
  next step next htrial =>
    obtain rfl : next = x := by simpa using h
    obtain ⟨hl, rfl⟩ := trial_candidate htrial
    exact ⟨rfl, by simp [Point.at, hl]⟩
  next => cases h

/-- What holds of a point and passes on to the point of the next state holds all along. -/
theorem examined_point (P : Point α → Prop) {f : Residuals α} {settings : Settings α}
    (hstep : ∀ s, P s.point → P (advance f settings s).point) (budget : Nat) {s : State α}
    (hs : P s.point) :
    (∀ t ∈ examined f settings budget s, P t.point) ∧ P (finalPoint f settings budget s) := by
  induction budget generalizing s with
  | zero => exact ⟨by simp [examined], hs⟩
  | succ budget ih =>
    have hp := hstep s hs
    cases h : advance f settings s with
    | stop x status =>
      rw [h] at hp
      simp only [examined, finalPoint, h]
      exact ⟨by simpa using hs, hp⟩
    | go next =>
      rw [h] at hp
      simp only [examined, finalPoint, h, List.forall_mem_cons]
      exact ⟨⟨hs, (ih hp).1⟩, (ih hp).2⟩

theorem advance_evaluated {f : Residuals α} {n : Nat} (settings : Settings α) {s : State α}
    (h : s.point.Evaluated f n) : (advance f settings s).point.Evaluated f n := by
  rcases advance_point f settings s with ⟨x, hx, _, hp⟩ | ⟨_, hp⟩
  · rw [hp]
    exact h.length ▸ candidate?_evaluated hx
  · rw [hp]
    exact h

/-- The point of every state is the evaluation of its parameters, whose number never changes. -/
theorem examined_evaluated {f : Residuals α} {n : Nat} (settings : Settings α) (budget : Nat)
    {s : State α} (h : s.point.Evaluated f n) :
    (∀ t ∈ examined f settings budget s, t.point.Evaluated f n) ∧
      (finalPoint f settings budget s).Evaluated f n :=
  examined_point (Point.Evaluated f n) (fun _ => advance_evaluated settings) budget h

/-- What a state passes on to the next one holds of every state, and a search that is not cut off by
its budget ends as an iteration that examines such a state does. -/
theorem examined_state (P : State α → Prop) {f : Residuals α} {settings : Settings α}
    (hstep : ∀ s next, P s → advance f settings s = .go next → P next) (budget done : Nat)
    {s : State α} (hs : P s) :
    (∀ t ∈ examined f settings budget s, P t) ∧
      ((iterate f settings budget done s).status = .maxIterations ∨
        ∃ t x, P t ∧ advance f settings t = .stop x (iterate f settings budget done s).status) := by
  induction budget generalizing done s with
  | zero => exact ⟨by simp [examined], .inl rfl⟩
  | succ budget ih =>
    cases h : advance f settings s with
    | stop x status =>
      simp only [examined, iterate, h]
      exact ⟨by simpa using hs, .inr ⟨s, x, hs, h⟩⟩
    | go next =>
      obtain ⟨hall, hend⟩ := ih (done + 1) (hstep s next hs h)
      simp only [examined, iterate, h, List.forall_mem_cons]
      exact ⟨⟨hs, hall⟩, hend⟩

theorem iterations_minimize (f : Residuals α) (initial : List α) (settings : Settings α) :
    (minimize f initial settings).iterations = (history f initial settings).length := by
  unfold history minimize
  dsimp only
  split
  · rfl
  · rw [iterations_iterate, Nat.zero_add]

/-- A search ends with its start, having examined nothing, or with the end of its iterations. -/
theorem minimize_cases (f : Residuals α) (initial : List α) (settings : Settings α) :
    (history f initial settings = [] ∧
      minimize f initial settings = (Point.at f initial).result 0 .converged) ∨
    (history f initial settings =
        examined f settings settings.maxIterations ⟨.at f initial, settings.initialDamping⟩ ∧
      ((Point.at f initial).cost == 0.0) = false ∧ initial ≠ [] ∧
      minimize f initial settings =
        iterate f settings settings.maxIterations 0 ⟨.at f initial, settings.initialDamping⟩) := by
  unfold history minimize
  dsimp only
  by_cases h : ((Point.at f initial).cost == 0.0 || initial.isEmpty) = true
  · exact .inl ⟨if_pos h, if_pos h⟩
  · refine .inr ⟨if_neg h, ?_, ?_, if_neg h⟩
    · simp only [Bool.or_eq_true, not_or, Bool.not_eq_true] at h
      exact h.1
    · rintro rfl
      simp at h

theorem minimize_evaluated (f : Residuals α) (initial : List α) (settings : Settings α) :
    ∃ x : Point α, x.Evaluated f initial.length ∧ ∃ iterations status,
      minimize f initial settings = x.result iterations status := by
  rcases minimize_cases f initial settings with ⟨_, hr⟩ | ⟨_, _, _, hr⟩
  · exact ⟨.at f initial, ⟨rfl, rfl⟩, 0, .converged, hr⟩
  · let start : State α := ⟨.at f initial, settings.initialDamping⟩
    obtain ⟨iterations, status, hend⟩ := iterate_eq_result f settings settings.maxIterations 0 start
    have hstart : start.point.Evaluated f initial.length := ⟨rfl, rfl⟩
    exact ⟨_, (examined_evaluated settings settings.maxIterations hstart).2, iterations, status,
      hr.trans hend⟩

end TelescopePointing.LeastSquares
