import TelescopePointing.Proofs.Scalar.Real
import TelescopePointing.Proofs.Scalar.Rounding

namespace TelescopePointing

/-- What the comparison with a squared threshold needs of multiplication. -/
class Scalar.LawfulSquare (α : Type) [Scalar α] : Prop where
  mul_self_le : ∀ {x y : α}, 0.0 ≤ x → x ≤ y → x * x ≤ y * y
  lt_of_le_of_lt : ∀ {x y z : α}, x ≤ y → y < z → x < z

instance : Scalar.LawfulSquare ℝ where
  mul_self_le hx hxy := mul_self_le_mul_self (Scalar.real_zero ▸ hx) hxy
  lt_of_le_of_lt := fun h k => h.trans_lt k

namespace Binary64

open Float.Model Float.Model.UnpackedFloat

variable {m : Nat} {e : Int}

namespace Canonical

variable {m' : Nat} {e' : Int}

theorem le_of_lex (h : Canonical m e) (h' : Canonical m' e') (hle : e < e' ∨ e = e' ∧ m ≤ m') :
    m ≤ m' * 2 ^ (e' - e).toNat := by
  rcases hle with hlt | ⟨rfl, hle⟩
  · have hnormal : 2 ^ 52 ≤ m' := h'.le_or.resolve_right (by have := h.min_le; omega)
    have hpow : 2 ^ 1 ≤ 2 ^ (e' - e).toNat := Nat.pow_le_pow_right two_pos (by omega)
    have := h.lt
    nlinarith
  · simpa using hle

theorem square_le_lastPlace (h : Canonical m e) (hm : m ≠ 0) :
    e + e ≤ lastPlace (m * m) (e + e) := by
  rw [lastPlace_eq]
  rcases h.le_or with hnormal | rfl
  · have hlarge := Nat.mul_le_mul hnormal hnormal
    rw [← pow_add] at hlarge
    have hlog : 104 ≤ (m * m).log2 := (Nat.le_log2 (Nat.mul_ne_zero hm hm)).mpr hlarge
    omega
  · omega

theorem square_mono (h : Canonical m e) (h' : Canonical m' e') (hm : m ≠ 0) (hm' : m' ≠ 0)
    (hle : e < e' ∨ e = e' ∧ m ≤ m') :
    AtMost (pack (roundWithAccuracy .binary64 .positive (m * m) (e + e) .exact)).unpack
      (pack (roundWithAccuracy .binary64 .positive (m' * m') (e' + e') .exact)).unpack := by
  refine round_mono (Nat.mul_ne_zero hm hm) (Nat.mul_ne_zero hm' hm') (h.square_le_lastPlace hm)
    (h'.square_le_lastPlace hm') (by omega) ?_
  have hshift : (e' + e' - (e + e)).toNat = (e' - e).toNat + (e' - e).toNat := by omega
  calc m * m ≤ m' * 2 ^ (e' - e).toNat * (m' * 2 ^ (e' - e).toNat) :=
        Nat.mul_self_le_mul_self (h.le_of_lex h' hle)
    _ = m' * m' * 2 ^ (e' + e' - (e + e)).toNat := by
        rw [hshift, pow_add]
        ring

end Canonical

theorem zero_place : place? 0.0 = some (toLex (0, toLex (0, 0))) := by decide +kernel

def square (u : UnpackedFloat) : UnpackedFloat := (pack (UnpackedFloat.mul .binary64 u u)).unpack

theorem unpack_mul_self (x : Float) : (x * x).toModel.unpack = square x.toModel.unpack := rfl

theorem square_zero (s : Sign) : square (.zero s) = .zero .positive := by cases s <;> rfl

theorem square_infinity (s : Sign) : square (.infinity s) = .infinity .positive := by
  cases s <;> rfl

theorem square_finite (s : Sign) (hpos : 0 < m) : square (.finite s m e hpos) =
    (pack (roundWithAccuracy .binary64 .positive (m * m) (e + e) .exact)).unpack := by
  cases s <;> rfl

theorem nonnegative_cases {u : UnpackedFloat} (h : AtMost (.zero .positive) u) :
    (∃ s, u = .zero s) ∨ (∃ m e hpos, u = .finite .positive m e hpos) ∨
      u = .infinity .positive := by
  obtain ⟨z, hz, a, ha, hle⟩ := h
  obtain rfl : toLex (0, toLex (0, 0)) = z := Option.some.inj hz
  rcases u with (_ | _) | _ | s | ⟨_ | _, m, e, hpos⟩
  · obtain rfl : toLex (-2, toLex (0, 0)) = a := Option.some.inj ha
    simp [Prod.Lex.toLex_le_toLex] at hle
  · exact .inr (.inr rfl)
  · cases ha
  · exact .inl ⟨s, rfl⟩
  · obtain rfl : toLex (-1, toLex (-e, -(m : ℤ))) = a := Option.some.inj ha
    simp [Prod.Lex.toLex_le_toLex] at hle
  · exact .inr (.inl ⟨m, e, hpos, rfl⟩)

def Decoded (u : UnpackedFloat) : Prop := ∀ s m e hpos, u = .finite s m e hpos → Canonical m e

theorem square_mem {u : UnpackedFloat} (hu : Decoded u) (h : AtMost (.zero .positive) u) :
    ∃ k ∈ rank? (square u), toLex (0, toLex (0, 0)) ≤ k ∧ k ≤ toLex (2, toLex (0, 0)) := by
  rcases nonnegative_cases h with ⟨s, rfl⟩ | ⟨m, e, hpos, rfl⟩ | rfl
  · rw [square_zero]
    exact ⟨_, rfl, le_rfl, by simp [Prod.Lex.toLex_le_toLex]⟩
  · obtain ⟨r, hr, -, heq⟩ := exists_rounded (Nat.mul_ne_zero hpos.ne' hpos.ne')
      ((hu _ _ _ _ rfl).square_le_lastPlace hpos.ne')
    rw [square_finite, heq]
    exact ⟨_, hr.rank?_eq, roundedRank_mem _ _⟩
  · rw [square_infinity]
    exact ⟨_, rfl, by simp [Prod.Lex.toLex_le_toLex], le_rfl⟩

theorem square_mono {u v : UnpackedFloat} (hu : Decoded u) (hv : Decoded v)
    (h0 : AtMost (.zero .positive) u) (h : AtMost u v) : AtMost (square u) (square v) := by
  obtain ⟨j, hj, hjmem⟩ := square_mem hu h0
  obtain ⟨k, hk, hkmem⟩ := square_mem hv (h0.trans h)
  have hv0 := nonnegative_cases (h0.trans h)
  obtain ⟨a, ha, b, hb, hab⟩ := h
  rcases nonnegative_cases h0 with ⟨s, rfl⟩ | ⟨m, e, hpos, rfl⟩ | rfl
  · rw [square_zero]
    exact ⟨_, rfl, k, hk, hkmem.1⟩
  · obtain rfl : toLex (1, toLex (e, (m : ℤ))) = a := Option.some.inj ha
    rcases hv0 with ⟨s, rfl⟩ | ⟨m', e', hpos', rfl⟩ | rfl
    · obtain rfl : toLex (0, toLex (0, 0)) = b := Option.some.inj hb
      simp [Prod.Lex.toLex_le_toLex] at hab
    · obtain rfl : toLex (1, toLex (e', (m' : ℤ))) = b := Option.some.inj hb
      rw [square_finite, square_finite]
      exact (hu _ _ _ _ rfl).square_mono (hv _ _ _ _ rfl) hpos.ne' hpos'.ne'
        (by simpa [Prod.Lex.toLex_le_toLex] using hab)
    · rw [square_infinity]
      exact ⟨j, hj, _, rfl, hjmem.2⟩
  · obtain rfl : toLex (2, toLex (0, 0)) = a := Option.some.inj ha
    rcases hv0 with ⟨s, rfl⟩ | ⟨m', e', hpos', rfl⟩ | rfl
    · obtain rfl : toLex (0, toLex (0, 0)) = b := Option.some.inj hb
      simp [Prod.Lex.toLex_le_toLex] at hab
    · obtain rfl : toLex (1, toLex (e', (m' : ℤ))) = b := Option.some.inj hb
      simp [Prod.Lex.toLex_le_toLex] at hab
    · exact ⟨j, hj, j, hj, le_rfl⟩

theorem decoded_unpack (x : Float.Model) : Decoded x.unpack := fun _ _ _ _ => canonical_of_unpack

instance : Scalar.LawfulSquare Float where
  mul_self_le {x y} hx hxy := by
    have hplaces := (le_iff_place _ _).mp hxy
    refine (le_iff_place _ _).mpr ?_
    change AtMost (x * x).toModel.unpack (y * y).toModel.unpack
    rw [unpack_mul_self, unpack_mul_self]
    refine square_mono (decoded_unpack _) (decoded_unpack _) ?_ hplaces
    obtain ⟨z, hz, a, ha, h⟩ := (le_iff_place _ _).mp hx
    obtain rfl := Option.mem_unique zero_place hz
    exact ⟨_, rfl, a, ha, h⟩
  lt_of_le_of_lt {x y z} h k := by
    obtain ⟨a, ha, b, hb, hab⟩ := (le_iff_place x y).mp h
    obtain ⟨b', hb', c, hc, hbc⟩ := (lt_iff_place y z).mp k
    rw [Option.mem_unique hb' hb] at hbc
    exact (lt_iff_place x z).mpr ⟨a, ha, c, hc, hab.trans_lt hbc⟩

end Binary64

end TelescopePointing
