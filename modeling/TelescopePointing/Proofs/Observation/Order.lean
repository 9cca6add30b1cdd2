import TelescopePointing.Proofs.Observation.Pairing

namespace TelescopePointing

/-- Two lists that were made from two lists of rows in one way: a row gives the same to both. -/
def Drawn {ρ β : Type} (rows rows' : List ρ) (xs ys : List β) : Prop :=
  ∃ g : ρ → Option β, xs = rows.filterMap g ∧ ys = rows'.filterMap g

namespace Drawn

variable {ρ β γ : Type} {rows rows' : List ρ} {xs ys : List β}

theorem perm (h : Drawn rows rows' xs ys) (hrows : rows.Perm rows') : xs.Perm ys := by
  obtain ⟨g, rfl, rfl⟩ := h
  exact hrows.filterMap g

theorem filterMap (h : Drawn rows rows' xs ys) (f : β → Option γ) :
    Drawn rows rows' (xs.filterMap f) (ys.filterMap f) := by
  obtain ⟨g, rfl, rfl⟩ := h
  exact ⟨fun r => (g r).bind f, List.filterMap_filterMap, List.filterMap_filterMap⟩

theorem map (h : Drawn rows rows' xs ys) (f : β → γ) :
    Drawn rows rows' (xs.map f) (ys.map f) := by
  rw [← List.filterMap_eq_map]
  exact h.filterMap _

theorem filter (h : Drawn rows rows' xs ys) (p : β → Bool) :
    Drawn rows rows' (xs.filter p) (ys.filter p) := by
  rw [← List.filterMap_eq_filter]
  exact h.filterMap _

end Drawn

/-- Observations in another order make the same pairs in that order, or none in either order because
of their times. -/
theorem StarPair.ofObservations_drawn {ρ α : Type} [Scalar α] [NumberText α] {rows rows' : List ρ}
    (hrows : rows.Perm rows') {observations observations' : List (Observation α)}
    (h : Drawn rows rows' observations observations')
    (hsite : ∀ o ∈ observations, o.site.check = .ok ()) (e : Engine) (frame : FitFrame) :
    AlikeUpTo
      (fun c c' => (∃ reason, c = .invalidTime reason) ∧ ∃ reason, c' = .invalidTime reason)
      (Drawn rows rows') (ofObservations observations e frame)
      (ofObservations observations' e frame) := by
  have hperm := h.perm hrows
  refine (AlikeUpTo.mapM_perm (fun o => o.pair e frame) hperm).mono ?_ ?_
  · rintro c c' ⟨⟨o, ho, hc⟩, o', ho', hc'⟩
    exact ⟨Observation.pair_eq_error (hsite o ho) hc,
      Observation.pair_eq_error (hsite o' (hperm.mem_iff.mpr ho')) hc'⟩
  · rintro pairs pairs' ⟨rfl, rfl⟩
    exact h.filterMap _

end TelescopePointing
