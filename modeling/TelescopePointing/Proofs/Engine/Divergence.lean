import TelescopePointing.Proofs.Engine.Correction
import TelescopePointing.Proofs.Sky.GreatCircle

namespace TelescopePointing

namespace Engine

section

variable {α : Type} [Scalar α] [NumberText α] (first second : Engine) (star : SkyPosition α)
  (instant : Instant) (site : Site α) (air : Atmosphere α)

theorem divergence_value : (first.divergence second star instant site air).map Prod.fst = (do
    let p ← first.toHorizon star instant site air true
    let q ← second.toHorizon star instant site air true
    return p.separation q / Angle.arcsecond) := by
  unfold divergence toHorizon
  cases first.standing star instant site air true with
  | error e => rfl
  | ok s =>
    cases second.standing star instant site air true with
    | error e => rfl
    | ok t => rfl

end

variable [NumberText ℝ] (first second : Engine) (star : SkyPosition ℝ) (instant : Instant)
  (site : Site ℝ) (air : Atmosphere ℝ)

variable {star instant site air} in
/-- What keeps one engine from placing a star keeps every other one from it too. -/
theorem fails_alike {correct : Bool} {err : PointingError}
    (h : first.toHorizon star instant site air correct = .error err) :
    second.toHorizon star instant site air correct = .error err :=
  (second.toHorizon_eq_error_iff air correct err).mpr
    ((first.toHorizon_eq_error_iff air correct err).mp h)

theorem divergence_comm : (first.divergence second star instant site air).map Prod.fst =
    (second.divergence first star instant site air).map Prod.fst := by
  rw [divergence_value, divergence_value]
  cases hp : first.toHorizon star instant site air true with
  | error err => rw [fails_alike first second hp]
  | ok p =>
    cases hq : second.toHorizon star instant site air true with
    | error err => cases hp.symm.trans (fails_alike second first hq)
    | ok q => simp only [bind, Except.bind, SkyPosition.separation_comm p q]

end Engine

/-- The separation of positions is the great-circle metric of their directions, whatever their
longitudes and latitudes are, and so it does not matter which of two engines comes first when they
are compared. -/
theorem separation_isGreatCircle :
    (∀ p q r : SkyPosition ℝ,
      p.separation q ∈ Set.Icc 0 Real.pi ∧
      p.separation q = Real.arccos (p.direction.dot q.direction) ∧
      p.separation q = q.separation p ∧
      (p.separation q = 0 ↔ p.direction = q.direction) ∧
      p.separation r ≤ p.separation q + q.separation r) ∧
    ∀ [NumberText ℝ] (first second : Engine) (star : SkyPosition ℝ) instant site air,
      (first.divergence second star instant site air).map Prod.fst =
        (second.divergence first star instant site air).map Prod.fst :=
  ⟨fun p q r => ⟨p.separation_mem q, p.separation_eq_arccos q, p.separation_comm q,
    p.separation_eq_zero_iff q, p.separation_le_add q r⟩,
    fun first second star instant site air => first.divergence_comm second star instant site air⟩

end TelescopePointing
