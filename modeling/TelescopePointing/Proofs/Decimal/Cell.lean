import TelescopePointing.Decimal.Text
import TelescopePointing.Text.Character

namespace TelescopePointing

namespace Text

def Solid (cs : List Char) : Prop := ∀ c ∈ cs, isBlank c = false

namespace Solid

variable {cs ds : List Char}

theorem append (hcs : Solid cs) (hds : Solid ds) : Solid (cs ++ ds) := fun c hc =>
  (List.mem_append.mp hc).elim (hcs c) (hds c)

theorem cons {c : Char} (hc : isBlank c = false) (hcs : Solid cs) : Solid (c :: cs) :=
  List.forall_mem_cons.mpr ⟨hc, hcs⟩

theorem of_all (h : cs.all (fun c => !isBlank c) = true) : Solid cs := by
  simpa [Solid] using h

theorem take (h : Solid cs) (n : Nat) : Solid (cs.take n) := fun c hc =>
  h c (List.mem_of_mem_take hc)

theorem drop (h : Solid cs) (n : Nat) : Solid (cs.drop n) := fun c hc =>
  h c (List.mem_of_mem_drop hc)

theorem of_digits (h : ∀ c ∈ cs, c.isDigit = true) : Solid cs := by
  intro c hc
  have hdigit := h c hc
  simp only [Char.isDigit, Bool.and_eq_true, decide_eq_true_eq] at hdigit
  have hlow : 48 ≤ c.toNat := hdigit.1
  have hhigh : c.toNat ≤ 57 := hdigit.2
  simp [isBlank]
  omega

end Solid

theorem trim_of_solid {s : String} (h : Solid s.toList) : trim s = s := by
  have hdrop : ∀ cs, Solid cs → cs.dropWhile isBlank = cs := by
    intro cs hcs
    cases cs with
    | nil => rfl
    | cons c cs => rw [List.dropWhile_cons_of_neg (by simp [hcs c List.mem_cons_self])]
  have hreverse : Solid s.toList.reverse := fun c hc => h c (List.mem_reverse.mp hc)
  rw [trim, trimChars, hdrop _ h, hdrop _ hreverse, List.reverse_reverse, String.ofList_toList]

end Text

namespace Decimal

open Text

theorem solid_toDigits (n : Nat) : Solid (Nat.toDigits 10 n) :=
  .of_digits fun _ hc => Nat.isDigit_of_mem_toDigits (by decide) (by decide) hc

theorem solid_toString (n : Nat) : Solid (toString n).toList := by
  rw [Nat.toString_eq_ofList_toDigits, String.toList_ofList]
  exact solid_toDigits n

theorem trim_toString (n : Nat) : trim (toString n) = toString n := trim_of_solid (solid_toString n)

theorem solid_toString_int (i : Int) : Solid (toString i).toList := by
  cases i with
  | ofNat n => exact solid_toString n
  | negSucc n =>
    change Solid ("-" ++ toString (n + 1)).toList
    rw [String.toList_append]
    exact .append (.cons (by decide) nofun) (solid_toString (n + 1))

theorem solid_zeros (n : Nat) : Solid (zeros n) := by
  intro c hc
  rw [List.eq_of_mem_replicate hc]
  decide

theorem solid_pointAt {ds : List Char} (h : Solid ds) (k : Int) : Solid (pointAt ds k) := by
  have hpoint : isBlank '.' = false := by decide
  unfold pointAt
  split
  · exact .append (.cons (by decide) (.cons hpoint (solid_zeros _))) h
  · split
    · exact .append h (solid_zeros _)
    · exact .append (h.take _) (.cons hpoint (h.drop _))

theorem Scaled.solid_cell (s : Scaled) : Solid s.cell.toList := by
  have hds := solid_toDigits s.digits
  unfold cell
  dsimp only
  split
  · rw [String.toList_ofList]
    exact .append (solid_pointAt hds _) (.cons (by decide) (.cons (by decide) nofun))
  · split
    · rw [String.toList_ofList]
      exact solid_pointAt hds _
    · rw [String.toList_append, String.toList_append, String.toList_ofList]
      refine .append (.append ?_ (.cons (by decide) nofun)) (solid_toString_int _)
      split
      · exact hds
      · exact .append (hds.take 1) (.cons (by decide) (hds.drop 1))

theorem solid_signed (x : Float) {text : Binary64.Magnitude → String}
    (h : ∀ m, Solid (text m).toList) : Solid (signed x text).toList := by
  have hbody : Solid (if x.isInf then "inf" else text (Binary64.magnitude x)).toList := by
    split
    · exact .of_all (by decide)
    · exact h _
  unfold signed
  split
  · exact .of_all (by decide)
  · dsimp only
    split
    · rw [String.toList_append]
      exact .append (.cons (by decide) nofun) hbody
    · exact hbody

/-- No number is written with a blank. -/
theorem trim_cell (x : Float) : trim (NumberText.cell x) = NumberText.cell x := by
  refine trim_of_solid (solid_signed x fun m => ?_)
  split
  · exact .of_all (by decide)
  · exact Scaled.solid_cell _

end Decimal

end TelescopePointing
