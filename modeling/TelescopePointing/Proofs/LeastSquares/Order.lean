import TelescopePointing.Proofs.LeastSquares.Mirror

namespace TelescopePointing.LeastSquares

namespace Rearrangement

variable {m : Nat}

theorem length (order : Rearrangement m) {a : List ℝ} (h : a.length = m) :
    (order.apply a).length = m := by
  -- A sum of ones is a length.
  have hones : ∀ b : List ℝ, (b.map fun _ => (1 : ℝ)).sum = b.length := by simp
  have hsum := order.sum (a := a.map fun _ => 1) (by rwa [List.length_map])
  rw [order.map _ h, hones, hones, Nat.cast_inj] at hsum
  exact hsum.trans h

def after (k : Nat) (order : Rearrangement m) : Rearrangement (k + m) where
  apply a := a.take k ++ order.apply (a.drop k)
  zipWith F {a b} ha hb := by
    have hdrop : ∀ {c : List ℝ}, c.length = k + m → (c.drop k).length = m := fun h => by
      rw [List.length_drop, h, Nat.add_sub_cancel_left]
    rw [List.take_zipWith, List.drop_zipWith, order.zipWith F (hdrop ha) (hdrop hb),
      List.zipWith_append (by simp [ha, hb])]
  sum {a} ha := by
    rw [List.sum_append, order.sum (by simp [ha]), List.sum_take_add_sum_drop]

def exchange (k m : Nat) : Rearrangement (k + (k + m)) where
  apply a := (a.drop k).take k ++ (a.take k ++ (a.drop k).drop k)
  zipWith F {a b} ha hb := by
    simp only [List.take_zipWith, List.drop_zipWith]
    rw [List.zipWith_append (by simp [ha, hb]), List.zipWith_append (by simp [ha, hb])]
  sum {a} _ := by
    have hrest := List.sum_take_add_sum_drop (a.drop k) k
    have hall := List.sum_take_add_sum_drop a k
    rw [List.sum_append, List.sum_append]
    linarith

def reversal (m : Nat) : Rearrangement m where
  apply := List.reverse
  zipWith _ {_ _} ha hb := List.reverse_zipWith (ha.trans hb.symm)
  sum _ := List.sum_reverse _

def trans (first second : Rearrangement m) : Rearrangement m where
  apply a := second.apply (first.apply a)
  zipWith F {_ _} ha hb := by
    rw [first.zipWith F ha hb, second.zipWith F (first.length ha) (first.length hb)]
  sum ha := (second.sum (first.length ha)).trans (first.sum ha)

/-- When the elements of a list change places, so do the blocks of `k` numbers that stand for
them. -/
theorem exists_of_perm {ι : Type} {xs ys : List ι} (h : xs.Perm ys) (k : Nat) :
    ∃ order : Rearrangement (k * xs.length), ∀ F : ι → List ℝ, (∀ x, (F x).length = k) →
      order.apply (xs.flatMap F) = ys.flatMap F := by
  -- The length is a variable here: it is a sum in the cases and a product in the statement.
  suffices ∀ m, m = k * xs.length → ∃ order : Rearrangement m, ∀ F : ι → List ℝ,
      (∀ x, (F x).length = k) → order.apply (xs.flatMap F) = ys.flatMap F from this _ rfl
  induction h with
  | nil =>
    intro m _
    exact ⟨.keep m, fun _ _ => rfl⟩
  | @cons x xs ys _ ih =>
    rintro _ rfl
    obtain ⟨order, horder⟩ := ih _ rfl
    rw [List.length_cons, Nat.mul_succ, Nat.add_comm]
    refine ⟨order.after k, fun F hF => ?_⟩
    simp only [after, List.flatMap_cons]
    rw [List.take_left' (hF x), List.drop_left' (hF x), horder F hF]
  | swap x y xs =>
    rintro _ rfl
    have hm : k * (y :: x :: xs).length = k + (k + k * xs.length) := by
      simp only [List.length_cons]
      ring
    rw [hm]
    refine ⟨.exchange k _, fun F hF => ?_⟩
    simp only [exchange, List.flatMap_cons]
    rw [List.take_left' (hF y), List.drop_left' (hF y), List.take_left' (hF x),
      List.drop_left' (hF x)]
  | trans h _ ih ih' =>
    rintro m hm
    obtain ⟨first, hfirst⟩ := ih m hm
    obtain ⟨second, hsecond⟩ := ih' m (by rw [hm, h.length_eq])
    refine ⟨first.trans second, fun F hF => ?_⟩
    rw [← hsecond F hF, ← hfirst F hF]
    rfl

end Rearrangement

theorem areSigns_replicate (n : Nat) : AreSigns (List.replicate n 1) := by
  intro s hs
  rw [List.eq_of_mem_replicate hs, one_mul]

theorem reflect_replicate {n : Nat} {p : List ℝ} (h : p.length = n) :
    reflect (List.replicate n 1) p = p := by
  refine List.ext_getElem (by simp [reflect, h]) fun i _ _ => ?_
  simp [reflect]

/-- The search sees its residuals only through sums over all of them. -/
theorem minimize_rearranged {m : Nat} (order : Rearrangement m) {f g : Residuals ℝ}
    {initial : List ℝ} (hlength : ∀ p, p.length = initial.length → (f p).length = m)
    (hvalue : ∀ p, p.length = initial.length → g p = order.apply (f p))
    (settings : Settings ℝ) : minimize g initial settings = minimize f initial settings := by
  have hmirrors : Mirrors (List.replicate initial.length 1) order f g := by
    refine ⟨areSigns_replicate _, fun p hp => ?_, fun p hp => ?_⟩
    · exact hlength p (hp.trans List.length_replicate)
    · rw [List.length_replicate] at hp
      rw [reflect_replicate hp, hvalue p hp]
  have hmirror := minimize_mirror hmirrors List.length_replicate.symm settings
  obtain ⟨x, hx, iterations, status, hresult⟩ := minimize_evaluated f initial settings
  rw [reflect_replicate rfl, hresult] at hmirror
  rw [hmirror, hresult]
  simp only [Point.result, Result.mirror, reflect_replicate hx.length]

end TelescopePointing.LeastSquares
