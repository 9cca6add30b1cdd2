import Mathlib.Tactic.SplitIfs
import TelescopePointing.Observation.Row
import TelescopePointing.Proofs.Alike

namespace TelescopePointing

theorem Decimal.digitsValue_toString (n : Nat) : digitsValue (toString n).toList = n := by
  rw [Nat.toString_eq_ofList_toDigits, String.toList_ofList]
  exact Nat.ofDigitChars_ten_toDigits

theorem Decimal.toString_injective : Function.Injective (toString : Nat → String) := by
  intro n m h
  rw [← digitsValue_toString n, h, digitsValue_toString]

namespace StoredObservation

theorem isDigit_of_mem_toString {n : Nat} {c : Char} (h : c ∈ (toString n).toList) :
    c.isDigit = true := by
  rw [Nat.toString_eq_ofList_toDigits, String.toList_ofList] at h
  exact Nat.isDigit_of_mem_toDigits (by decide) (by decide) h

theorem identifier?_digits (n : Nat) :
    identifier? (toString n) = if n < UInt64.size then some n else none := by
  have hdigit : ∀ c ∈ (toString n).toList, c.isDigit = true := fun _ => isDigit_of_mem_toString
  unfold identifier?
  split
  next cs hcs =>
    rw [hcs] at hdigit
    have hx := hdigit 'x' (by simp)
    exact absurd hx (by decide)
  next =>
    unfold Decimal.readBounded
    dsimp only
    split
    next ds hds =>
      rw [hds] at hdigit
      exact absurd (hdigit '+' (by simp)) (by decide)
    next =>
      have hnumeral : ((toString n).toList.isEmpty || !(toString n).toList.all Char.isDigit) =
          false := by
        simpa [Nat.toString_eq_ofList_toDigits] using hdigit
      rw [Decimal.digitsValue_toString, hnumeral, if_neg Bool.false_ne_true]

theorem identifier?_toString {n m : Nat} (h : identifier? (toString n) = some m) : m = n := by
  rw [identifier?_digits] at h
  split_ifs at h
  exact (Option.some.inj h).symm

variable {α : Type} [NumberText α]

theorem requiredCell_eq_ok {row : List (String × String)} {column text : String}
    (h : requiredCell row column = .ok text) :
    row.filter (fun c => c.1 == column) = [(column, text)] := by
  unfold requiredCell cell? at h
  split at h
  next => simp [bind, Except.bind] at h
  next c hone =>
    have hc : c ∈ row.filter fun c => c.1 == column := by simp [hone]
    have hname : c.1 = column := by simpa using (List.mem_filter.mp hc).2
    have htext : c.2 = text := by simpa [bind, Except.bind] using h
    rw [hone, ← hname, ← htext]
  next => simp [bind, Except.bind] at h

theorem ofRow_id {row : List (String × String)} {o : StoredObservation α} (h : ofRow row = .ok o) :
    ∃ text, requiredCell row "nml_id" = .ok text ∧ identifier? text = some o.id := by
  obtain ⟨text, htext, h⟩ := bind_eq_ok h
  refine ⟨text, htext, ?_⟩
  cases hid : identifier? text with
  | none => simp [hid] at h
  | some id =>
    simp only [hid] at h
    -- The other columns do not decide the entry.
    iterate 11 obtain ⟨_, _, h⟩ := bind_eq_ok h
    obtain rfl := Except.ok.inj h
    rfl

end StoredObservation

end TelescopePointing
