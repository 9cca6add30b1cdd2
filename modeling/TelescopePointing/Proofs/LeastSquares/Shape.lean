import TelescopePointing.LeastSquares.Solver

namespace TelescopePointing

variable {α : Type} [Scalar α]

namespace LowerColumns

/-- Every column reaches down to the last row. -/
def Full : LowerColumns α → Prop
  | empty => True
  | column _ below rest => below.length = rest.size ∧ rest.Full

@[simp] theorem size_gram (columns : List (List α)) : (gram columns).size = columns.length := by
  induction columns with
  | nil => rfl
  | cons c cs ih => simp [gram, size, ih]

theorem full_gram (columns : List (List α)) : (gram columns).Full := by
  induction columns with
  | nil => trivial
  | cons c cs ih => exact ⟨by simp, ih⟩

omit [Scalar α] in
@[simp] theorem length_diagonal (m : LowerColumns α) : m.diagonal.length = m.size := by
  induction m with
  | empty => rfl
  | column d below rest ih => simp [diagonal, size, ih]

@[simp] theorem size_addDiagonal (m : LowerColumns α) (xs : List α) :
    (m.addDiagonal xs).size = m.size := by
  fun_induction addDiagonal m xs with
  | case1 d below rest x xs ih => simp [size, ih]
  | case2 m xs h => rfl

theorem Full.addDiagonal {m : LowerColumns α} (h : m.Full) (xs : List α) :
    (m.addDiagonal xs).Full := by
  fun_induction LowerColumns.addDiagonal m xs with
  | case1 d below rest x xs ih => exact ⟨by simpa using h.1, ih h.2⟩
  | case2 m xs _ => exact h

theorem Full.subtractSquare {m : LowerColumns α} (h : m.Full) (xs : List α)
    (hl : xs.length = m.size) : (m.subtractSquare xs).Full := by
  fun_induction LowerColumns.subtractSquare m xs with
  | case1 d below rest x xs ih =>
    have hxs : xs.length = rest.size := by simpa [size] using hl
    refine ⟨?_, ih h.2 hxs⟩
    rw [size_subtractSquare, List.length_zipWith, h.1, hxs, Nat.min_self]
  | case2 m xs _ => exact h

theorem cholesky?_column (d : α) (below : List α) (rest : LowerColumns α) :
    (column d below rest).cholesky? =
      if 0.0 < d then
        ((rest.subtractSquare (below.map (· / Scalar.sqrt d))).cholesky?).map
          (column (Scalar.sqrt d) (below.map (· / Scalar.sqrt d)))
      else none := by
  rw [cholesky?]

@[simp] theorem cholesky?_empty : (empty : LowerColumns α).cholesky? = some empty := by
  rw [cholesky?]

/-- The elimination goes on with what is left after a square was subtracted. -/
theorem elimination_induction {motive : LowerColumns α → Prop} (empty : motive empty)
    (column : ∀ d below rest, (∀ xs, motive (rest.subtractSquare xs)) →
      motive (column d below rest)) (m : LowerColumns α) : motive m := by
  induction hn : m.size generalizing m with
  | zero =>
    cases m with
    | empty => exact empty
    | column d below rest => simp [size] at hn
  | succ n ih =>
    cases m with
    | empty => exact empty
    | column d below rest =>
      refine column d below rest fun xs => ih _ ?_
      simpa [size, size_subtractSquare] using hn

theorem cholesky?_shape {m factor : LowerColumns α} (h : m.Full) (hf : m.cholesky? = some factor) :
    factor.size = m.size ∧ factor.Full := by
  induction m using elimination_induction generalizing factor with
  | empty =>
    obtain rfl : empty = factor := by simpa using hf
    exact ⟨rfl, trivial⟩
  | column d below rest ih =>
    rw [cholesky?_column] at hf
    by_cases hd : 0.0 < d
    · rw [if_pos hd] at hf
      obtain ⟨tail, htail, rfl⟩ := Option.map_eq_some_iff.mp hf
      obtain ⟨hsize, hfull⟩ := ih _ (h.2.subtractSquare _ (by simp [h.1])) htail
      rw [size_subtractSquare] at hsize
      exact ⟨by simp [size, hsize], by simp [h.1, hsize], hfull⟩
    · simp [hd] at hf

theorem length_forward {factor : LowerColumns α} (h : factor.Full) {ys : List α}
    (hl : ys.length = factor.size) : (factor.forward ys).length = factor.size := by
  fun_induction forward factor ys with
  | case1 d below rest y ys x ih =>
    have hys : ys.length = rest.size := by simpa [size] using hl
    simp only [List.length_cons, size]
    rw [ih h.2 (by rw [List.length_zipWith, hys, h.1, Nat.min_self])]
  | case2 factor ys hne =>
    cases factor with
    | empty => rfl
    | column d below rest =>
      obtain ⟨y, ys, rfl⟩ := List.exists_cons_of_length_eq_add_one hl
      exact (hne d below rest y ys rfl rfl).elim

theorem length_backward {factor : LowerColumns α} {ys : List α}
    (hl : ys.length = factor.size) : (factor.backward ys).length = factor.size := by
  fun_induction backward factor ys with
  | case1 d below rest y ys xs ih =>
    simp only [List.length_cons, size]
    rw [ih (by simpa [size] using hl)]
  | case2 factor ys hne =>
    cases factor with
    | empty => rfl
    | column d below rest =>
      obtain ⟨y, ys, rfl⟩ := List.exists_cons_of_length_eq_add_one hl
      exact (hne d below rest y ys rfl rfl).elim

theorem length_solveFactored {factor : LowerColumns α} (h : factor.Full) {ys : List α}
    (hl : ys.length = factor.size) : (factor.solveFactored ys).length = factor.size :=
  length_backward (length_forward h hl)

end LowerColumns

namespace LeastSquares

open LowerColumns

variable (f : Residuals α) (p : List α) (step : α)

@[simp] theorem length_jacobian : (jacobian f p step).length = p.length := by
  simp [jacobian]

@[simp] theorem length_gradient (columns : List (List α)) (r : List α) :
    (gradient columns r).length = columns.length := by
  simp [gradient]

@[simp] theorem length_scaling (diagonal : List α) :
    (scaling diagonal).length = diagonal.length := by
  simp [scaling]

@[simp] theorem size_damped (columns : List (List α)) (damping : α) :
    (damped columns damping).size = columns.length := by
  simp [damped]

theorem full_damped (columns : List (List α)) (damping : α) : (damped columns damping).Full :=
  (full_gram columns).addDiagonal _

theorem length_proposal {columns : List (List α)} {g : List α} (hg : g.length = columns.length)
    {damping : α} {delta : List α} (h : proposal? columns g damping = some delta) :
    delta.length = columns.length := by
  obtain ⟨factor, hf, rfl⟩ := Option.map_eq_some_iff.mp h
  obtain ⟨hsize, hfull⟩ := cholesky?_shape (full_damped columns damping) hf
  rw [size_damped] at hsize
  rw [List.length_map, length_solveFactored hfull (hg.trans hsize.symm), hsize]

end LeastSquares

end TelescopePointing
