import Mathlib.Algebra.Order.Ring.Int
import Mathlib.Algebra.Ring.Parity
import Mathlib.Tactic.Linarith
import Mathlib.Tactic.NormNum
import Mathlib.Tactic.Positivity
import Mathlib.Tactic.Ring
import TelescopePointing.Proofs.Scalar.Order

namespace TelescopePointing.Binary64

open Float.Model Float.Model.UnpackedFloat

/-- A whole number that is nearest to `m / 2 ^ s`, the even one where two are equally near. -/
structure Nearest (m s r : Nat) : Prop where
  le : 2 * m ≤ (2 * r + 1) * 2 ^ s
  ge : 2 * r * 2 ^ s ≤ 2 * m + 2 ^ s
  even : 2 * m = (2 * r + 1) * 2 ^ s ∨ 2 * r * 2 ^ s = 2 * m + 2 ^ s → Even r

namespace Nearest

variable {m m' s s' r r' : Nat}

theorem mono (h : Nearest m s r) (h' : Nearest m' s' r') (hle : m * 2 ^ s' ≤ m' * 2 ^ s) :
    r ≤ r' := by
  by_contra hlt
  have hsucc : r' + 1 ≤ r := Nat.succ_le_of_lt (not_le.mp hlt)
  have hs : 0 < 2 ^ s := Nat.two_pow_pos s
  have hs' : 0 < 2 ^ s' := Nat.two_pow_pos s'
  have hlow := Nat.mul_le_mul_right (2 ^ s') h.ge
  have hhigh := Nat.mul_le_mul_right (2 ^ s) h'.le
  have hgap := Nat.mul_le_mul_right (2 ^ s * 2 ^ s') hsucc
  -- The two numbers would be the one midpoint between two neighbours, and both of these even.
  have hr : r = r' + 1 := by
    refine Nat.eq_of_mul_eq_mul_right (Nat.mul_pos hs hs') (le_antisymm ?_ hgap)
    linarith
  have hm : 2 * r * 2 ^ s = 2 * m + 2 ^ s := by
    refine Nat.eq_of_mul_eq_mul_right hs' (le_antisymm hlow ?_)
    linarith
  have hm' : 2 * m' = (2 * r' + 1) * 2 ^ s' := by
    refine Nat.eq_of_mul_eq_mul_right hs (le_antisymm hhigh ?_)
    linarith
  have heven : Even (r' + 1) := hr ▸ h.even (.inr hm)
  exact Nat.even_add_one.mp heven (h'.even (.inl hm'))

theorem of_low (hlow : 2 * r * 2 ^ s ≤ 2 * m) (hhigh : 2 * m < (2 * r + 1) * 2 ^ s) :
    Nearest m s r where
  le := hhigh.le
  ge := hlow.trans (Nat.le_add_right _ _)
  even h := by
    have hs : 0 < 2 ^ s := Nat.two_pow_pos s
    rcases h with h | h
    · exact absurd h hhigh.ne
    · omega

theorem of_half (h : 2 * m = (2 * r + 1) * 2 ^ s) : Nearest m s (r + r % 2) := by
  rcases Nat.even_or_odd r with he | ho
  · rw [Nat.even_iff.mp he, add_zero]
    exact ⟨h.le, by rw [h]; nlinarith, fun _ => he⟩
  · rw [Nat.odd_iff.mp ho]
    exact ⟨by rw [h]; nlinarith, by rw [h]; nlinarith, fun _ => ho.add_one⟩

theorem of_high (hlow : (2 * r + 1) * 2 ^ s < 2 * m) (hhigh : 2 * m ≤ 2 * (r + 1) * 2 ^ s) :
    Nearest m s (r + 1) where
  le := by nlinarith
  ge := by nlinarith
  even h := by
    have hs : 0 < 2 ^ s := Nat.two_pow_pos s
    rcases h with h | h <;> nlinarith

theorem of_whole (k : Nat) : Nearest k 0 k := of_low (by omega) (by omega)

theorem le_two_pow {k : Nat} (h : Nearest m s r) (hm : m ≤ 2 ^ (k + s)) : r ≤ 2 ^ k :=
  h.mono (of_whole _) (by rwa [pow_zero, mul_one, ← pow_add])

theorem two_pow_le {k : Nat} (h : Nearest m s r) (hm : 2 ^ (k + s) ≤ m) : 2 ^ k ≤ r :=
  (of_whole _).mono h (by rwa [pow_zero, mul_one, ← pow_add])

end Nearest

/-- What the bits shifted out of a whole number are remembered by: the half of the last place, and
whether anything is left below it. -/
def Remembers (m s : Nat) (em : ExtendedMantissa) : Prop :=
  ∃ rest < 2 ^ s, (em.stickyBit = true ↔ rest ≠ 0) ∧
    (2 * em.mantissa + em.roundBit.toNat) * 2 ^ s + rest = 2 * m

namespace Remembers

variable {m s : Nat} {em : ExtendedMantissa}

theorem shiftRightOne (h : Remembers m s em) : Remembers m (s + 1) em.shiftRightOne := by
  obtain ⟨rest, hlt, hsticky, heq⟩ := h
  have hs : 0 < 2 ^ s := Nat.two_pow_pos s
  have hbit : 2 * (em.mantissa / 2) + (em.mantissa % 2 != 0).toNat = em.mantissa := by
    rcases Nat.mod_two_eq_zero_or_one em.mantissa with h0 | h1
    · simp only [h0, bne_self_eq_false, Bool.toNat_false]
      omega
    · simp only [h1, Nat.reduceBNe, Bool.toNat_true]
      omega
  refine ⟨em.roundBit.toNat * 2 ^ s + rest, ?_, ?_, ?_⟩
  · rw [pow_succ]
    nlinarith [em.roundBit.toNat_le]
  · cases hr : em.roundBit <;> simp [ExtendedMantissa.shiftRightOne, hr, hsticky]
  · calc (2 * (em.mantissa / 2) + (em.mantissa % 2 != 0).toNat) * 2 ^ (s + 1) +
          (em.roundBit.toNat * 2 ^ s + rest)
        = (2 * em.mantissa + em.roundBit.toNat) * 2 ^ s + rest := by
          rw [hbit, pow_succ]
          ring
      _ = 2 * m := heq

theorem shiftRight (m s : Nat) : Remembers m s ((⟨m, false, false⟩ : ExtendedMantissa) >>> s) := by
  induction s with
  | zero => exact ⟨0, one_pos, ⟨nofun, fun h => (h rfl).elim⟩, mul_one (2 * m)⟩
  | succ s ih => exact ih.shiftRightOne

/-- The two remembered bits suffice to round. -/
theorem nearest (h : Remembers m s em) : Nearest m s em.roundedMantissa := by
  obtain ⟨rest, hlt, hsticky, heq⟩ := h
  have hs : 0 < 2 ^ s := Nat.two_pow_pos s
  rcases em with ⟨q, half, sticky⟩
  cases half with
  | false =>
    have hround : ExtendedMantissa.roundedMantissa ⟨q, false, sticky⟩ = q := by cases sticky <;> rfl
    replace heq : 2 * q * 2 ^ s + rest = 2 * m := heq
    rw [hround]
    exact .of_low (by omega) (by rw [add_mul]; omega)
  | true =>
    replace heq : (2 * q + 1) * 2 ^ s + rest = 2 * m := heq
    cases sticky with
    | false =>
      have hrest : rest = 0 := by simpa using hsticky
      have hnear : Nearest m s (q + q % 2) := .of_half (by omega)
      exact hnear
    | true =>
      have hrest : rest ≠ 0 := hsticky.mp rfl
      have hnear : Nearest m s (q + 1) := .of_high (by omega) (by nlinarith)
      exact hnear

end Remembers

def lastPlace (m : Nat) (e : Int) : Int := Format.binary64.targetExponent (totalExponent m e)

theorem lastPlace_eq (m : Nat) (e : Int) : lastPlace m e = max (m.log2 + e - 52) (-1074) := by
  change max ((m.log2 : Int) + 1 + e - 53) (-1074) = _
  omega

theorem shiftToTargetExponent_eq (m : Nat) (e : Int) :
    shiftToTargetExponent .binary64 m e .exact =
      ((⟨m, false, false⟩ : ExtendedMantissa) >>> (lastPlace m e - e).toNat,
        e + (lastPlace m e - e).toNat) := rfl

/-- A number of whole places, which may be one more than fit. -/
def stored (s : Sign) (r : Nat) (e : Int) : UnpackedFloat :=
  if h : r = 0 then .zero s
  else if r < 2 ^ 53 then .finite s r e (Nat.pos_of_ne_zero h)
  else .finite s (2 ^ 52) (e + 1) (by decide)

theorem shiftToTargetExponent_of_lt {r : Nat} {e : Int} (hr : r < 2 ^ 53) (he : -1074 ≤ e) :
    shiftToTargetExponent .binary64 r e .exact = (⟨r, false, false⟩, e) := by
  have hlog : r.log2 < 53 := by
    by_cases h : r = 0
    · simp [h]
    · exact (Nat.log2_lt h).mpr hr
  have hshift : (lastPlace r e - e).toNat = 0 := by
    rw [lastPlace_eq]
    omega
  rw [shiftToTargetExponent_eq, hshift]
  exact Prod.ext rfl (add_zero e)

theorem shiftToTargetExponent_two_pow {e : Int} (he : -1074 ≤ e) :
    shiftToTargetExponent .binary64 (2 ^ 53) e .exact = (⟨2 ^ 52, false, false⟩, e + 1) := by
  have hshift : (lastPlace (2 ^ 53) e - e).toNat = 1 := by
    rw [lastPlace_eq, Nat.log2_two_pow]
    omega
  rw [shiftToTargetExponent_eq, hshift]
  rfl

variable {m : Nat} {e : Int}

theorem le_two_pow_of_nearest {r : Nat} (he : e ≤ lastPlace m e)
    (h : Nearest m (lastPlace m e - e).toNat r) : r ≤ 2 ^ 53 := by
  refine h.le_two_pow (Nat.lt_log2_self.le.trans (Nat.pow_le_pow_right two_pos ?_))
  have := lastPlace_eq m e
  omega

theorem two_pow_le_of_nearest {r : Nat} (hm : m ≠ 0) (he : e ≤ lastPlace m e)
    (h : Nearest m (lastPlace m e - e).toNat r) (hsub : lastPlace m e ≠ -1074) : 2 ^ 52 ≤ r := by
  refine h.two_pow_le (le_trans (Nat.pow_le_pow_right two_pos ?_) (Nat.log2_self_le hm))
  have := lastPlace_eq m e
  omega

/-- Rounding keeps as many places as fit and goes to the nearest number of them. -/
theorem exists_stored (s : Sign) (he : e ≤ lastPlace m e) :
    ∃ r, Nearest m (lastPlace m e - e).toNat r ∧
      roundWithAccuracy .binary64 s m e .exact = stored s r (lastPlace m e) := by
  have hnear := (Remembers.shiftRight m (lastPlace m e - e).toNat).nearest
  refine ⟨_, hnear, ?_⟩
  have hplace : e + ((lastPlace m e - e).toNat : Int) = lastPlace m e := by omega
  have hmin : -1074 ≤ lastPlace m e := lastPlace_eq m e ▸ le_max_right _ _
  have hle := le_two_pow_of_nearest he hnear
  rw [roundWithAccuracy, shiftToTargetExponent_eq m e]
  dsimp only
  rw [hplace]
  generalize ExtendedMantissa.roundedMantissa _ = r at hle ⊢
  rcases hle.lt_or_eq with hlt | rfl
  · rw [shiftToTargetExponent_of_lt hlt hmin]
    exact dite_congr rfl (fun _ => rfl) fun _ => (if_pos hlt).symm
  · rw [shiftToTargetExponent_two_pow hmin]
    rfl

/-- The form in which numbers are stored. -/
structure Canonical (m : Nat) (e : Int) : Prop where
  lt : m < 2 ^ 53
  min_le : -1074 ≤ e
  le_or : 2 ^ 52 ≤ m ∨ e = -1074

theorem toNat_one_append (v : BitVec 52) : (1#1 ++ v).toNat = 2 ^ 52 + v.toNat := by
  rw [BitVec.toNat_append, ← Nat.shiftLeft_add_eq_or_of_lt v.isLt]
  rfl

theorem canonical_of_unpack {x : Float.Model} {s : Sign} {hpos : 0 < m}
    (h : x.unpack = .finite s m e hpos) : Canonical m e := by
  let exponent : BitVec 11 := @unpackExponent .binary64 x.toBits.toBitVec
  let mantissa : BitVec 52 := @unpackMantissa .binary64 x.toBits.toBitVec
  have hm : mantissa.toNat < 2 ^ 52 := mantissa.isLt
  delta Float.Model.unpack UnpackedFloat.unpack at h
  dsimp only at h
  by_cases hones : exponent = -1#11
  · rw [if_pos hones] at h
    by_cases hmantissa : mantissa = 0#52
    · cases (if_pos hmantissa).symm.trans h
    · cases (if_neg hmantissa).symm.trans h
  rw [if_neg hones] at h
  by_cases hzero : exponent = 0#11
  · rw [if_pos hzero] at h
    by_cases hmantissa : mantissa = 0#52
    · cases (dif_pos hmantissa).symm.trans h
    · cases (dif_neg hmantissa).symm.trans h
      have he : exponent.toNat = 0 := congrArg BitVec.toNat hzero
      change Canonical mantissa.toNat (exponent.toNat - 1075 + 1)
      exact ⟨by omega, by omega, .inr (by omega)⟩
  · cases (if_neg hzero).symm.trans h
    have he : exponent.toNat ≠ 0 := fun h0 => hzero (BitVec.eq_of_toNat_eq h0)
    change Canonical (1#1 ++ mantissa).toNat (exponent.toNat - 1075)
    rw [toNat_one_append]
    exact ⟨by omega, by omega, .inl (by omega)⟩

theorem sign_packComponents (s : Sign) (exponent : BitVec 11) (mantissa : BitVec 52) :
    Sign.ofBitVec (unpackSign (packComponents .binary64 s exponent mantissa)) = s := by
  have hbit : unpackSign (packComponents .binary64 s exponent mantissa) = s.toBitVec := by
    ext i hi
    obtain rfl : i = 0 := Nat.lt_one_iff.mp hi
    delta unpackSign packComponents
    simp only [BitVec.getElem_cast, BitVec.extractLsb, BitVec.getElem_extractLsb']
    rw [BitVec.getLsbD_append, if_neg (by decide), BitVec.getLsbD_append]
    rfl
  rw [hbit]
  cases s <;> rfl

theorem finite_congr {s s' : Sign} {m' : Nat} {e' : Int} {hpos : 0 < m} {hpos' : 0 < m'}
    (hs : s = s') (hm : m = m') (he : e = e') :
    UnpackedFloat.finite s m e hpos = .finite s' m' e' hpos' := by
  subst hs hm he
  rfl

theorem unpack_packComponents_normal (s : Sign) {exponent : BitVec 11} {mantissa : BitVec 52}
    (hones : exponent ≠ -1#11) (hzero : exponent ≠ 0#11) (hpos : 0 < (1#1 ++ mantissa).toNat) :
    UnpackedFloat.unpack .binary64 (packComponents .binary64 s exponent mantissa) =
      .finite s (1#1 ++ mantissa).toNat (exponent.toNat - 1075) hpos := by
  have hexponent : unpackExponent (packComponents .binary64 s exponent mantissa) = exponent :=
    unpackExponent_packComponents
  have hmantissa : unpackMantissa (packComponents .binary64 s exponent mantissa) = mantissa :=
    unpackMantissa_packComponents
  delta UnpackedFloat.unpack
  dsimp only
  rw [if_neg (hexponent.symm ▸ hones), if_neg (hexponent.symm ▸ hzero)]
  exact finite_congr (sign_packComponents s exponent mantissa) (by rw [hmantissa])
    (by rw [hexponent]; rfl)

theorem unpack_packComponents_subnormal (s : Sign) {mantissa : BitVec 52}
    (hzero : mantissa ≠ 0#52) (hpos : 0 < mantissa.toNat) :
    UnpackedFloat.unpack .binary64 (packComponents .binary64 s 0#11 mantissa) =
      .finite s mantissa.toNat (-1074) hpos := by
  have hexponent : unpackExponent (packComponents .binary64 s 0#11 mantissa) = 0#11 :=
    unpackExponent_packComponents
  have hmantissa : unpackMantissa (packComponents .binary64 s 0#11 mantissa) = mantissa :=
    unpackMantissa_packComponents
  have hones : 0#11 ≠ -1#11 := by decide
  delta UnpackedFloat.unpack
  dsimp only
  rw [if_neg (hexponent.symm ▸ hones), if_pos hexponent, dif_neg (hmantissa.symm ▸ hzero)]
  exact finite_congr (sign_packComponents s 0#11 mantissa) (by rw [hmantissa])
    (by rw [hexponent]; rfl)

theorem pack_finite (s : Sign) (hpos : 0 < m) :
    UnpackedFloat.pack .binary64 (.finite s m e hpos) =
      if 2048 ≤ (e + 1075).toNat + 1 then UnpackedFloat.pack .binary64 (.infinity s)
      else if m.log2 + 1 = 53 then
        packComponents .binary64 s (BitVec.ofNat 11 (e + 1075).toNat) (BitVec.ofNat 52 m)
      else packComponents .binary64 s 0#11 (BitVec.ofNat 52 m) := by
  have hbias : (e + Format.binary64.exponentBias +
      Format.binary64.mantissaBitsWithoutImplicit).toNat = (e + 1075).toNat := by
    change (e + 1023 + 52).toNat = _
    omega
  rw [← hbias]
  rfl

theorem unpack_pack_eq (u : UnpackedFloat) :
    (pack u).unpack = UnpackedFloat.unpack .binary64 (UnpackedFloat.pack .binary64 u) := rfl

theorem unpack_pack_infinity (s : Sign) : (pack (.infinity s)).unpack = .infinity s := by
  cases s <;> rfl

theorem unpack_pack_zero (s : Sign) : (pack (.zero s)).unpack = .zero s := by
  cases s <;> rfl

variable {s : Sign} {hpos : 0 < m}

theorem unpack_pack_of_lt (h : 971 < e) : (pack (.finite s m e hpos)).unpack = .infinity s := by
  rw [unpack_pack_eq, pack_finite, if_pos (by omega), ← unpack_pack_eq, unpack_pack_infinity]

theorem unpack_pack_normal (hm : 2 ^ 52 ≤ m) (hm' : m < 2 ^ 53) (he : -1074 ≤ e) (he' : e ≤ 971) :
    (pack (.finite s m e hpos)).unpack = .finite s m e hpos := by
  have hlog : m.log2 = 52 := (Nat.log2_eq_iff hpos.ne').mpr ⟨hm, hm'⟩
  have hexponent : (BitVec.ofNat 11 (e + 1075).toNat).toNat = (e + 1075).toNat := by
    rw [BitVec.toNat_ofNat, Nat.mod_eq_of_lt (by omega)]
  have hones : BitVec.ofNat 11 (e + 1075).toNat ≠ -1#11 := fun h => by
    have hbits : (e + 1075).toNat = 2047 := hexponent.symm.trans (congrArg BitVec.toNat h)
    omega
  have hzero : BitVec.ofNat 11 (e + 1075).toNat ≠ 0#11 := fun h => by
    have hbits : (e + 1075).toNat = 0 := hexponent.symm.trans (congrArg BitVec.toNat h)
    omega
  have hmantissa : (1#1 ++ BitVec.ofNat 52 m).toNat = m := by
    rw [toNat_one_append, BitVec.toNat_ofNat]
    omega
  have hpos' : 0 < (1#1 ++ BitVec.ofNat 52 m).toNat := hmantissa.symm ▸ hpos
  rw [unpack_pack_eq, pack_finite, if_neg (by omega), if_pos (by rw [hlog]),
    unpack_packComponents_normal s hones hzero hpos']
  exact finite_congr rfl hmantissa (by omega)

theorem unpack_pack_subnormal (hm : m < 2 ^ 52) :
    (pack (.finite s m (-1074) hpos)).unpack = .finite s m (-1074) hpos := by
  have hlog : m.log2 < 52 := (Nat.log2_lt hpos.ne').mpr hm
  have hmantissa : (BitVec.ofNat 52 m).toNat = m := by
    rw [BitVec.toNat_ofNat, Nat.mod_eq_of_lt hm]
  have hzero : BitVec.ofNat 52 m ≠ 0#52 := fun h =>
    hpos.ne' (hmantissa.symm.trans (congrArg BitVec.toNat h))
  have hpos' : 0 < (BitVec.ofNat 52 m).toNat := hmantissa.symm ▸ hpos
  rw [unpack_pack_eq, pack_finite, if_neg (by decide), if_neg (by omega),
    unpack_packComponents_subnormal s hzero hpos']
  exact finite_congr rfl hmantissa rfl

/-- A number in the form in which numbers are stored is stored as it is, unless it is too large. -/
theorem unpack_pack (h : Canonical m e) :
    (pack (.finite s m e hpos)).unpack =
      if e ≤ 971 then .finite s m e hpos else .infinity s := by
  by_cases he : e ≤ 971
  · rw [if_pos he]
    by_cases hm : 2 ^ 52 ≤ m
    · exact unpack_pack_normal hm h.lt h.min_le he
    · obtain rfl := h.le_or.resolve_left hm
      exact unpack_pack_subnormal (not_le.mp hm)
  · rw [if_neg he, unpack_pack_of_lt (not_le.mp he)]

def AtMost (u v : UnpackedFloat) : Prop := ∃ a ∈ rank? u, ∃ b ∈ rank? v, a ≤ b

theorem AtMost.trans {u v w : UnpackedFloat} (h : AtMost u v) (h' : AtMost v w) : AtMost u w := by
  obtain ⟨a, ha, b, hb, hab⟩ := h
  obtain ⟨b', hb', c, hc, hbc⟩ := h'
  exact ⟨a, ha, c, hc, hab.trans (Option.mem_unique hb hb' ▸ hbc)⟩

def storedRank (r : Nat) (e : Int) : Rank :=
  if r = 0 then toLex (0, toLex (0, 0))
  else if e ≤ 971 then toLex (1, toLex (e, r))
  else toLex (2, toLex (0, 0))

theorem rank?_stored {r : Nat} (h : Canonical r e) :
    rank? (pack (stored .positive r e)).unpack = some (storedRank r e) := by
  rw [stored, storedRank]
  by_cases hr : r = 0
  · rw [dif_pos hr, if_pos hr, unpack_pack_zero]
    rfl
  · rw [dif_neg hr, if_neg hr, if_pos h.lt, unpack_pack h]
    by_cases he : e ≤ 971
    · rw [if_pos he, if_pos he]
      rfl
    · rw [if_neg he, if_neg he]
      rfl

theorem storedRank_mem (r : Nat) (e : Int) :
    toLex (0, toLex (0, 0)) ≤ storedRank r e ∧ storedRank r e ≤ toLex (2, toLex (0, 0)) := by
  rw [storedRank]
  split_ifs <;> simp [Prod.Lex.toLex_le_toLex]

theorem storedRank_mono {r r' : Nat} {e e' : Int} (h' : Canonical r' e')
    (hle : e < e' ∨ e = e' ∧ r ≤ r') (hmin : -1074 ≤ e) : storedRank r e ≤ storedRank r' e' := by
  have hle_or := h'.le_or
  rw [storedRank, storedRank]
  split_ifs <;> simp [Prod.Lex.toLex_le_toLex] <;> omega

/-- The place after the last one that fits is the first one of the next exponent. -/
theorem stored_carry (s : Sign) (e : Int) : stored s (2 ^ 53) e = stored s (2 ^ 52) (e + 1) := rfl

def roundedRank (r : Nat) (e : Int) : Rank :=
  if r < 2 ^ 53 then storedRank r e else storedRank (2 ^ 52) (e + 1)

theorem roundedRank_mem (r : Nat) (e : Int) :
    toLex (0, toLex (0, 0)) ≤ roundedRank r e ∧ roundedRank r e ≤ toLex (2, toLex (0, 0)) := by
  rw [roundedRank]
  split_ifs <;> exact storedRank_mem _ _

structure Rounded (r : Nat) (e : Int) : Prop where
  le : r ≤ 2 ^ 53
  min_le : -1074 ≤ e
  le_or : 2 ^ 52 ≤ r ∨ e = -1074

namespace Rounded

variable {r r' : Nat} {e e' : Int}

theorem canonical (h : Rounded r e) (hr : r < 2 ^ 53) : Canonical r e := ⟨hr, h.min_le, h.le_or⟩

theorem canonical_carry (h : Rounded r e) : Canonical (2 ^ 52) (e + 1) :=
  ⟨by decide, h.min_le.trans (by omega), .inl le_rfl⟩

theorem rank?_eq (h : Rounded r e) :
    rank? (pack (stored .positive r e)).unpack = some (roundedRank r e) := by
  rw [roundedRank]
  split_ifs with hr
  · exact rank?_stored (h.canonical hr)
  · obtain rfl : r = 2 ^ 53 := le_antisymm h.le (not_lt.mp hr)
    rw [stored_carry]
    exact rank?_stored h.canonical_carry

theorem rank_mono (h : Rounded r e) (h' : Rounded r' e') (hle : e < e' ∨ e = e' ∧ r ≤ r') :
    roundedRank r e ≤ roundedRank r' e' := by
  have hmin := h.min_le
  have hle_or := h'.le_or
  rw [roundedRank, roundedRank]
  split_ifs with hr hr' hr'
  · exact storedRank_mono (h'.canonical hr') hle hmin
  · exact storedRank_mono h'.canonical_carry (.inl (by omega)) hmin
  · exact storedRank_mono (h'.canonical hr') (by omega) (by omega)
  · exact storedRank_mono h'.canonical_carry (by omega) (by omega)

end Rounded

theorem lastPlace_mono {m' : Nat} {e' : Int} (hm : m ≠ 0) (he : e ≤ e')
    (hle : m ≤ m' * 2 ^ (e' - e).toNat) : lastPlace m e ≤ lastPlace m' e' := by
  have hlog : m.log2 < m'.log2 + 1 + (e' - e).toNat := by
    refine (Nat.log2_lt hm).mpr (hle.trans_lt ?_)
    rw [pow_add]
    exact Nat.mul_lt_mul_of_pos_right Nat.lt_log2_self (Nat.two_pow_pos _)
  rw [lastPlace_eq, lastPlace_eq]
  omega

theorem exists_rounded (hm : m ≠ 0) (he : e ≤ lastPlace m e) :
    ∃ r, Rounded r (lastPlace m e) ∧ Nearest m (lastPlace m e - e).toNat r ∧
      roundWithAccuracy .binary64 .positive m e .exact = stored .positive r (lastPlace m e) := by
  obtain ⟨r, hnear, heq⟩ := exists_stored .positive he
  have hmin : -1074 ≤ lastPlace m e := lastPlace_eq m e ▸ le_max_right _ _
  have hor : 2 ^ 52 ≤ r ∨ lastPlace m e = -1074 :=
    or_iff_not_imp_right.mpr (two_pow_le_of_nearest hm he hnear)
  exact ⟨r, ⟨le_two_pow_of_nearest he hnear, hmin, hor⟩, hnear, heq⟩

/-- Rounding keeps the order of exact numbers. -/
theorem round_mono {m' : Nat} {e' : Int} (hm : m ≠ 0) (hm' : m' ≠ 0) (hlast : e ≤ lastPlace m e)
    (hlast' : e' ≤ lastPlace m' e') (he : e ≤ e') (hle : m ≤ m' * 2 ^ (e' - e).toNat) :
    AtMost (pack (roundWithAccuracy .binary64 .positive m e .exact)).unpack
      (pack (roundWithAccuracy .binary64 .positive m' e' .exact)).unpack := by
  obtain ⟨r, hr, hnear, heq⟩ := exists_rounded hm hlast
  obtain ⟨r', hr', hnear', heq'⟩ := exists_rounded hm' hlast'
  rw [heq, heq']
  refine ⟨_, hr.rank?_eq, _, hr'.rank?_eq, hr.rank_mono hr' ?_⟩
  refine (lastPlace_mono hm he hle).lt_or_eq.imp_right fun hsame => ⟨hsame, ?_⟩
  refine hnear.mono hnear' ?_
  have hshift : (lastPlace m e - e).toNat =
      (e' - e).toNat + (lastPlace m' e' - e').toNat := by omega
  calc m * 2 ^ (lastPlace m' e' - e').toNat
      ≤ m' * 2 ^ (e' - e).toNat * 2 ^ (lastPlace m' e' - e').toNat := Nat.mul_le_mul_right _ hle
    _ = m' * 2 ^ (lastPlace m e - e).toNat := by rw [hshift, pow_add, mul_assoc]

end TelescopePointing.Binary64
