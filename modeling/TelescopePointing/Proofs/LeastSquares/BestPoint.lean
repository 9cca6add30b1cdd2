import TelescopePointing.Proofs.LeastSquares.History
import TelescopePointing.Proofs.Scalar.Order

namespace TelescopePointing.LeastSquares

variable {α : Type} [Scalar α] [Scalar.LawfulOrder α]

open Scalar.LawfulOrder

theorem improves_self (x : Point α) : improves x x = false := by
  rw [Bool.eq_false_iff, ne_eq, improves_iff]
  exact fun h => lt_irrefl _ h.2

theorem improves_of_lt {x y z : Point α} (h : improves x y = true) (hyz : y.cost < z.cost) :
    improves x z = true := by
  rw [improves_iff] at h ⊢
  exact ⟨h.1, lt_trans h.2 hyz⟩

def ComesFrom (f : Residuals α) (settings : Settings α) (budget : Nat) (s : State α)
    (x : Point α) : Prop :=
  x = s.point ∨
    x.cost < s.point.cost ∧ ∃ t ∈ examined f settings budget s, Accepts f settings t x

theorem ComesFrom.later {f : Residuals α} {settings : Settings α} {budget : Nat}
    {s next : State α} {x : Point α} (hgo : advance f settings s = .go next)
    (h : ComesFrom f settings budget next x) (hnext : next.point = s.point ∨
      next.point.cost < s.point.cost ∧ Accepts f settings s next.point) :
    ComesFrom f settings (budget + 1) s x := by
  have hsub : ∀ t ∈ examined f settings budget next, t ∈ examined f settings (budget + 1) s := by
    intro t ht
    simp only [examined, hgo]
    exact List.mem_cons_of_mem _ ht
  have hs : s ∈ examined f settings (budget + 1) s := by simp [examined]
  rcases h with rfl | ⟨hlt, t, ht, ha⟩
  · rcases hnext with heq | ⟨hlt, ha⟩
    · exact .inl heq
    · exact .inr ⟨hlt, s, hs, ha⟩
  · rcases hnext with heq | ⟨hlt', _⟩
    · exact .inr ⟨heq ▸ hlt, t, hsub t ht, ha⟩
    · exact .inr ⟨lt_trans hlt hlt', t, hsub t ht, ha⟩

/-- A search ends at a point that none of its candidates improves on. The induction is on the
budget; what one iteration does is the choice between its two kinds of move. -/
theorem finalPoint_best (f : Residuals α) (settings : Settings α) (budget : Nat) (s : State α) :
    ComesFrom f settings budget s (finalPoint f settings budget s) ∧
      ∀ t ∈ examined f settings budget s, ∀ y, candidate? f settings t = some y →
        improves y (finalPoint f settings budget s) = false := by
  induction budget generalizing s with
  | zero => exact ⟨.inl rfl, by simp [examined]⟩
  | succ budget ih =>
    have hs : s ∈ examined f settings (budget + 1) s := by simp [examined]
    rcases advance_point f settings s with ⟨x, hx, hi, hp⟩ | ⟨hnone, hp⟩
    · have hlt : x.cost < s.point.cost := ((improves_iff x s.point).mp hi).2
      cases h : advance f settings s with
      | stop y status =>
        obtain rfl : y = x := by rw [h] at hp; exact hp
        simp only [finalPoint, examined, h, List.mem_singleton, forall_eq]
        refine ⟨.inr ⟨hlt, s, hs, hx, hi⟩, fun z hz => ?_⟩
        obtain rfl : y = z := Option.some.inj (hx.symm.trans hz)
        exact improves_self y
      | go next =>
        obtain rfl : next.point = x := by rw [h] at hp; exact hp
        obtain ⟨hfrom, hleast⟩ := ih next
        simp only [finalPoint, examined, h, List.forall_mem_cons]
        refine ⟨hfrom.later h (.inr ⟨hlt, hx, hi⟩), fun z hz => ?_, hleast⟩
        obtain rfl : next.point = z := Option.some.inj (hx.symm.trans hz)
        rcases hfrom with heq | ⟨hlt', _⟩
        · rw [heq]
          exact improves_self _
        · rw [Bool.eq_false_iff, ne_eq, improves_iff]
          exact fun hb => lt_irrefl _ (lt_trans hb.2 hlt')
    · cases h : advance f settings s with
      | stop y status =>
        obtain rfl : y = s.point := by rw [h] at hp; exact hp
        simp only [finalPoint, examined, h, List.mem_singleton, forall_eq]
        exact ⟨.inl rfl, hnone⟩
      | go next =>
        have hnext : next.point = s.point := by rw [h] at hp; exact hp
        obtain ⟨hfrom, hleast⟩ := ih next
        simp only [finalPoint, examined, h, List.forall_mem_cons]
        refine ⟨hfrom.later h (.inl hnext), fun z hz => ?_, hleast⟩
        rcases hfrom with heq | ⟨hlt', _⟩
        · rw [heq, hnext]
          exact hnone z hz
        · rw [hnext] at hlt'
          rw [Bool.eq_false_iff]
          intro hb
          have := improves_of_lt hb hlt'
          rw [hnone z hz] at this
          cases this

theorem examined_cost (f : Residuals α) (settings : Settings α) (budget : Nat) (s : State α) :
    ∀ t ∈ examined f settings budget s, t.point = s.point ∨ t.point.cost < s.point.cost := by
  refine (examined_point (fun x => x = s.point ∨ x.cost < s.point.cost) ?_ budget (.inl rfl)).1
  intro t ht
  rcases advance_point f settings t with ⟨x, _, hi, hp⟩ | ⟨_, hp⟩
  · have hlt : x.cost < t.point.cost := ((improves_iff x t.point).mp hi).2
    rw [hp]
    rcases ht with heq | hlt'
    · exact .inr (heq ▸ hlt)
    · exact .inr (lt_trans hlt hlt')
  · rw [hp]
    exact ht

/-- The parameters of a result are the best that the search has seen. Every iteration examines one
state of the history. -/
structure IsBest (f : Residuals α) (initial : List α) (settings : Settings α) (r : Result α) :
    Prop where
  iterations : r.iterations = (history f initial settings).length
  length : r.parameters.length = initial.length
  cost : r.cost = Scalar.normSquared (f r.parameters)
  origin : r.parameters = initial ∨
    ∃ s ∈ history f initial settings, ∃ x, Accepts f settings s x ∧ r.parameters = x.parameters
  atMost : r.cost ≤ Scalar.normSquared (f initial)
  less : ∀ s ∈ history f initial settings, ∀ x, Accepts f settings s x →
    r.parameters = x.parameters → r.cost < Scalar.normSquared (f initial)
  least : ∀ s ∈ history f initial settings, ∀ x, candidate? f settings s = some x →
    Scalar.isFinite x.cost = true → ¬ x.cost < r.cost

/-- Whatever ends a search, its result is the best point that was seen. -/
theorem minimize_isBest (f : Residuals α) (initial : List α) (settings : Settings α)
    (hdefined : Scalar.Defined (Scalar.normSquared (f initial))) :
    IsBest f initial settings (minimize f initial settings) := by
  have hcount := iterations_minimize f initial settings
  rcases minimize_cases f initial settings with ⟨hnone, hr⟩ | ⟨hsome, _, _, hr⟩
  · rw [hr] at hcount ⊢
    exact ⟨hcount, rfl, rfl, .inl rfl, le_self hdefined, by simp [hnone], by simp [hnone]⟩
  · let start : State α := ⟨.at f initial, settings.initialDamping⟩
    obtain ⟨iterations, status, hend⟩ :=
      iterate_eq_result f settings settings.maxIterations 0 start
    obtain ⟨_, hat, hlen⟩ := examined_evaluated (n := initial.length) settings
      settings.maxIterations (s := start) ⟨rfl, rfl⟩
    obtain ⟨hfrom, hleast⟩ := finalPoint_best f settings settings.maxIterations start
    rw [hr, hend] at hcount ⊢
    generalize finalPoint f settings settings.maxIterations start = best
      at hcount hat hlen hfrom hleast ⊢
    have hcost : best.cost = Scalar.normSquared (f best.parameters) := congrArg Point.cost hat
    refine ⟨hcount, hlen, hcost, ?_, ?_, ?_, ?_⟩
    · rcases hfrom with rfl | ⟨_, t, ht, ha⟩
      · exact .inl rfl
      · exact .inr ⟨t, hsome ▸ ht, best, ha, rfl⟩
    · rcases hfrom with rfl | ⟨hlt, _⟩
      · exact le_self hdefined
      · exact le_of_lt hlt
    · intro s hs x ha hx
      have hsame : best.cost = x.cost := by
        rw [congrArg Point.cost (candidate?_evaluated ha.1).eq, hcost]
        exact congrArg (fun p => Scalar.normSquared (f p)) hx
      have hlt : x.cost < s.point.cost := ((improves_iff x s.point).mp ha.2).2
      change best.cost < start.point.cost
      rw [hsame]
      rcases examined_cost f settings settings.maxIterations start s (hsome ▸ hs) with heq | hlt'
      · exact heq ▸ hlt
      · exact lt_trans hlt hlt'
    · intro s hs x hx hfinite hlt
      have hi := hleast s (hsome ▸ hs) x hx
      rw [Bool.eq_false_iff, ne_eq, improves_iff] at hi
      exact hi ⟨hfinite, hlt⟩

theorem minimize_isBest_root :
    Scalar.Defined (Scalar.normSquared ([(1.0 : Float)].map fun x => x * x - 2.0)) ∧
      IsBest (fun p => p.map fun x => x * x - 2.0) [(1.0 : Float)] .standard
        (minimize (fun p => p.map fun x => x * x - 2.0) [(1.0 : Float)] .standard) := by
  have hdefined : Scalar.Defined
      (Scalar.normSquared ([(1.0 : Float)].map fun x => x * x - 2.0)) := by
    unfold Scalar.Defined
    decide +kernel
  exact ⟨hdefined, minimize_isBest _ _ _ hdefined⟩

end TelescopePointing.LeastSquares
