import TelescopePointing.Proofs.Scalar.Real
import TelescopePointing.Proofs.LeastSquares.Shape

namespace TelescopePointing

namespace Scalar

theorem dot_map_div (xs : List ℝ) (k : ℝ) (ys : List ℝ) :
    dot (xs.map (· / k)) ys = dot xs ys / k := by
  have h : xs.map (· / k) = xs.map (k⁻¹ * ·) := List.map_congr_left fun x _ => by ring
  rw [h, dot_map_mul]
  ring

theorem dot_sub_mul (k : ℝ) {xs ys : List ℝ} (h : xs.length = ys.length) (zs : List ℝ) :
    dot (List.zipWith (fun x y => x - k * y) xs ys) zs = dot xs zs - k * dot ys zs := by
  induction xs generalizing ys zs with
  | nil => simp [List.length_eq_zero_iff.mp h.symm]
  | cons x xs ih =>
    obtain ⟨y, ys, rfl⟩ := List.exists_cons_of_length_eq_add_one h.symm
    cases zs with
    | nil => simp
    | cons z zs =>
      have hl : xs.length = ys.length := by simpa using h
      simp only [List.zipWith_cons_cons, dot_cons, ih hl]
      ring

theorem dot_zeros (xs : List ℝ) (n : Nat) : dot xs (List.replicate n 0) = 0 := by
  induction xs generalizing n with
  | nil => simp
  | cons x xs ih =>
    cases n with
    | zero => simp
    | succ n => simp [List.replicate_succ, ih]

end Scalar

open Scalar

namespace LowerColumns

noncomputable def form : LowerColumns ℝ → List ℝ → List ℝ → ℝ
  | column d below rest, u :: us, v :: vs =>
    d * (u * v) + u * dot below vs + v * dot below us + rest.form us vs
  | _, _, _ => 0

def PositiveDefinite (m : LowerColumns ℝ) : Prop :=
  ∀ us, us.length = m.size → (∃ u ∈ us, u ≠ 0) → 0 < m.form us us

theorem form_neg (m : LowerColumns ℝ) (us vs : List ℝ) :
    m.form us (vs.map (- ·)) = -m.form us vs := by
  have hneg : ∀ xs : List ℝ, xs.map (- ·) = xs.map (-1 * ·) :=
    fun xs => List.map_congr_left fun x _ => by ring
  induction m generalizing us vs with
  | empty => simp [form]
  | column d below rest ih =>
    cases us with
    | nil => simp [form]
    | cons u us =>
      cases vs with
      | nil => simp [form]
      | cons v vs =>
        have hbelow : dot below (vs.map (- ·)) = -dot below vs := by
          rw [hneg, dot_comm, dot_map_mul, dot_comm vs]
          ring
        simp only [List.map_cons, form, ih, hbelow]
        ring

theorem form_eq_zero (m : LowerColumns ℝ) (us : List ℝ) {vs : List ℝ} (h : ∀ v ∈ vs, v = 0) :
    m.form us vs = 0 := by
  have hself : vs.map (- ·) = vs := by
    conv_rhs => rw [← List.map_id vs]
    exact List.map_congr_left fun v hv => by simp [h v hv]
  have hneg := m.form_neg us vs
  rw [hself] at hneg
  linarith

theorem form_addDiagonal (m : LowerColumns ℝ) {ds us vs : List ℝ} (hd : ds.length = m.size)
    (hu : us.length = m.size) (hv : vs.length = m.size) :
    (m.addDiagonal ds).form us vs = m.form us vs + dot ds (List.zipWith (· * ·) us vs) := by
  induction m generalizing ds us vs with
  | empty => simp [List.length_eq_zero_iff.mp hd, addDiagonal, form]
  | column d below rest ih =>
    obtain ⟨e, ds, rfl⟩ := List.exists_cons_of_length_eq_add_one hd
    obtain ⟨u, us, rfl⟩ := List.exists_cons_of_length_eq_add_one hu
    obtain ⟨v, vs, rfl⟩ := List.exists_cons_of_length_eq_add_one hv
    simp only [size, List.length_cons, Nat.add_right_cancel_iff] at hd hu hv
    simp only [addDiagonal, form, List.zipWith_cons_cons, dot_cons, ih hd hu hv]
    ring

theorem form_subtractSquare {m : LowerColumns ℝ} (h : m.Full) {xs us vs : List ℝ}
    (hx : xs.length = m.size) (hu : us.length = m.size) (hv : vs.length = m.size) :
    (m.subtractSquare xs).form us vs = m.form us vs - dot xs us * dot xs vs := by
  induction m generalizing xs us vs with
  | empty => simp [List.length_eq_zero_iff.mp hx, subtractSquare, form]
  | column d below rest ih =>
    obtain ⟨x, xs, rfl⟩ := List.exists_cons_of_length_eq_add_one hx
    obtain ⟨u, us, rfl⟩ := List.exists_cons_of_length_eq_add_one hu
    obtain ⟨v, vs, rfl⟩ := List.exists_cons_of_length_eq_add_one hv
    simp only [size, List.length_cons, Nat.add_right_cancel_iff] at hx hu hv
    have hbelow : ∀ zs, dot (List.zipWith (fun b y => b - y * x) below xs) zs =
        dot below zs - x * dot xs zs := by
      intro zs
      simp only [mul_comm _ x]
      exact dot_sub_mul x (h.1.trans hx.symm) zs
    simp only [subtractSquare, form, dot_cons, hbelow, ih h.2 hx hu hv]
    ring

theorem PositiveDefinite.pivot {d : ℝ} {below : List ℝ} {rest : LowerColumns ℝ}
    (h : (column d below rest).PositiveDefinite) : 0 < d := by
  have hpos := h (1 :: List.replicate rest.size 0) (by simp [size]) ⟨1, by simp⟩
  have hrest : rest.form (List.replicate rest.size 0) (List.replicate rest.size 0) = 0 := by
    clear h hpos
    induction rest with
    | empty => rfl
    | column d below rest ih => simp [size, List.replicate_succ, form, ih, dot_zeros]
  simpa [form, dot_zeros, hrest] using hpos

/-- What elimination leaves of a positive definite matrix is positive definite: the form of the rest
is that of the whole where the first variable is chosen best. -/
theorem PositiveDefinite.rest {d : ℝ} {below : List ℝ} {rest : LowerColumns ℝ}
    (h : (column d below rest).PositiveDefinite) (hfull : (column d below rest).Full) :
    (rest.subtractSquare (below.map (· / √d))).PositiveDefinite := by
  have hd := h.pivot
  intro us hl ⟨u, hu, hne⟩
  rw [size_subtractSquare] at hl
  have hlen : (below.map (· / √d)).length = rest.size := by simpa using hfull.1
  have hpos := h (-(dot below us / d) :: us) (by simp [size, hl])
    ⟨u, List.mem_cons_of_mem _ hu, hne⟩
  rw [form_subtractSquare hfull.2 hlen hl hl, dot_map_div, div_mul_div_comm,
    Real.mul_self_sqrt hd.le]
  have heq : (column d below rest).form (-(dot below us / d) :: us) (-(dot below us / d) :: us) =
      rest.form us us - dot below us * dot below us / d := by
    simp only [form]
    field_simp
    ring
  rwa [heq] at hpos

theorem PositiveDefinite.factors {m : LowerColumns ℝ} (h : m.PositiveDefinite) (hfull : m.Full) :
    ∃ factor, m.cholesky? = some factor := by
  induction m using elimination_induction with
  | empty => exact ⟨empty, cholesky?_empty⟩
  | column d below rest ih =>
    have hd : (0.0 : ℝ) < d := by simpa using h.pivot
    obtain ⟨tail, htail⟩ := ih _ (h.rest hfull)
      (hfull.2.subtractSquare _ (by simpa using hfull.1))
    refine ⟨column (√d) (below.map (· / √d)) tail, ?_⟩
    rw [cholesky?_column, if_pos hd, real_sqrt, htail, Option.map_some]

theorem eliminated_row {r : ℝ} (hr : r ≠ 0) (u y s t f w : ℝ) (h : f - t * s = w - y / r * t) :
    r * r * (u * ((y / r - s) / r)) + u * (r * s) + (y / r - s) / r * (r * t) + f = u * y + w := by
  have hfirst : r * r * (u * ((y / r - s) / r)) + u * (r * s) = u * y := by field_simp; ring
  have hsecond : (y / r - s) / r * (r * t) = y / r * t - t * s := by field_simp
  linarith

/-- The solution by a factor solves the system that was factored, tested against every vector. -/
theorem form_solveFactored {m factor : LowerColumns ℝ} (hfull : m.Full)
    (hf : m.cholesky? = some factor) {us ys : List ℝ} (hu : us.length = m.size)
    (hy : ys.length = m.size) : m.form us (factor.solveFactored ys) = dot us ys := by
  induction m using elimination_induction generalizing factor us ys with
  | empty => simp [form, List.length_eq_zero_iff.mp hu]
  | column d below rest ih =>
    rw [cholesky?_column] at hf
    by_cases hd : (0.0 : ℝ) < d
    · rw [if_pos hd, real_sqrt] at hf
      obtain ⟨tail, htail, rfl⟩ := Option.map_eq_some_iff.mp hf
      obtain ⟨u, us, rfl⟩ := List.exists_cons_of_length_eq_add_one hu
      obtain ⟨y, ys, rfl⟩ := List.exists_cons_of_length_eq_add_one hy
      simp only [size, List.length_cons, Nat.add_right_cancel_iff] at hu hy
      have hpos : 0 < d := by simpa using hd
      have hroot : √d * √d = d := Real.mul_self_sqrt hpos.le
      have hne : √d ≠ 0 := (Real.sqrt_pos.mpr hpos).ne'
      set scaled := below.map (· / √d) with hscaled
      have hlen : scaled.length = rest.size := by simpa [hscaled] using hfull.1
      have hdot : ∀ zs, dot below zs = √d * dot scaled zs := by
        intro zs
        rw [hscaled, dot_map_div]
        field_simp
      set zs := List.zipWith (fun z b => z - y / √d * b) ys scaled with hzs
      have hz : zs.length = rest.size := by simp [hzs, hy, hlen]
      have hleft := hfull.2.subtractSquare scaled hlen
      obtain ⟨hsize, htfull⟩ := cholesky?_shape hleft htail
      rw [size_subtractSquare] at hsize
      have hv : (tail.solveFactored zs).length = rest.size := by
        rw [length_solveFactored htfull (hz.trans hsize.symm), hsize]
      have hih := ih scaled hleft htail (by rw [size_subtractSquare]; exact hu)
        (by rw [size_subtractSquare]; exact hz)
      rw [form_subtractSquare hfull.2 hlen hu hv, dot_comm us zs, hzs,
        dot_sub_mul _ (hy.trans hlen.symm), ← hzs, dot_comm ys] at hih
      simp only [solveFactored, forward, backward, form, laneDot_eq_dot, dot_cons, hdot] at hih ⊢
      rw [← hzs]
      generalize tail.backward (tail.forward zs) = vs at hih ⊢
      have hrow := eliminated_row hne u y (dot scaled vs) (dot scaled us) _ _ hih
      rwa [hroot] at hrow
    · rw [if_neg hd] at hf
      cases hf

end LowerColumns

end TelescopePointing
