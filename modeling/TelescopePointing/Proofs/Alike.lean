import Mathlib.Data.List.Forall2

namespace TelescopePointing

variable {ε β γ δ ζ : Type}

theorem bind_eq_ok {x : Except ε β} {f : β → Except ε γ} {c : γ} (h : x >>= f = .ok c) :
    ∃ b, x = .ok b ∧ f b = .ok c := by
  cases x with
  | ok b => exact ⟨b, rfl, h⟩
  | error e => cases h

theorem bind_eq_error {x : Except ε β} {f : β → Except ε γ} {e : ε} (h : x >>= f = .error e) :
    x = .error e ∨ ∃ b, x = .ok b ∧ f b = .error e := by
  cases x with
  | ok b => exact .inr ⟨b, rfl, h⟩
  | error first => exact .inl (congrArg Except.error (Except.error.inj h))

theorem map_eq_error {x : Except ε β} {f : β → γ} {e : ε} (h : x.map f = .error e) :
    x = .error e := by
  cases x with
  | ok b => cases h
  | error first => exact congrArg Except.error (Except.error.inj h)

theorem mapM_eq_ok_iff {f : β → Except ε γ} {xs : List β} {ys : List γ} :
    xs.mapM f = .ok ys ↔ List.Forall₂ (fun x y => f x = .ok y) xs ys := by
  induction xs generalizing ys with
  | nil => cases ys <;> simp [pure, Except.pure]
  | cons x xs ih =>
    rw [List.mapM_cons]
    constructor
    · intro h
      obtain ⟨y, hy, h⟩ := bind_eq_ok h
      obtain ⟨rest, hrest, h⟩ := bind_eq_ok h
      cases h
      exact .cons hy (ih.mp hrest)
    · rintro (_ | ⟨hy, hrest⟩)
      rw [hy, ih.mpr hrest]
      rfl

theorem exists_of_mapM_eq_error {f : β → Except ε γ} {xs : List β} {e : ε}
    (h : xs.mapM f = .error e) : ∃ x ∈ xs, f x = .error e := by
  induction xs with
  | nil => cases h
  | cons x xs ih =>
    rw [List.mapM_cons] at h
    rcases bind_eq_error h with hx | ⟨y, -, h⟩
    · exact ⟨x, List.mem_cons_self, hx⟩
    · rcases bind_eq_error h with hrest | ⟨ys, -, h⟩
      · obtain ⟨x', hmem, hx'⟩ := ih hrest
        exact ⟨x', List.mem_cons_of_mem x hmem, hx'⟩
      · cases h

theorem mapM_eq_ok_iff_filterMap {f : β → Except ε γ} {xs : List β} {ys : List γ} :
    xs.mapM f = .ok ys ↔
      (∀ x ∈ xs, ∃ y, f x = .ok y) ∧ ys = xs.filterMap fun x => (f x).toOption := by
  rw [mapM_eq_ok_iff]
  constructor
  · intro h
    induction h with
    | nil => exact ⟨nofun, rfl⟩
    | @cons x y xs ys hx _ ih =>
      rw [List.filterMap_cons, hx]
      exact ⟨List.forall_mem_cons.mpr ⟨⟨y, hx⟩, ih.1⟩, congrArg (y :: ·) ih.2⟩
  · rintro ⟨h, rfl⟩
    induction xs with
    | nil => exact .nil
    | cons x xs ih =>
      rw [List.forall_mem_cons] at h
      obtain ⟨⟨y, hx⟩, h⟩ := h
      rw [List.filterMap_cons, hx]
      exact .cons hx (ih h)

/-- Two results that are there and related, or that fail with one error. -/
inductive Alike (Q : β → γ → Prop) : Except ε β → Except ε γ → Prop
  | ok {x : β} {y : γ} (h : Q x y) : Alike Q (.ok x) (.ok y)
  | error (e : ε) : Alike Q (.error e) (.error e)

namespace Alike

variable {Q : β → γ → Prop} {T : δ → ζ → Prop}

theorem refl {Q : β → β → Prop} (h : ∀ x, Q x x) (x : Except ε β) : Alike Q x x := by
  cases x with
  | ok x => exact .ok (h x)
  | error e => exact .error e

theorem self (x : Except ε β) : Alike (fun a b => b = a ∧ x = .ok a) x x := by
  cases x with
  | ok x => exact .ok ⟨rfl, rfl⟩
  | error e => exact .error e

theorem bind {x : Except ε β} {y : Except ε γ} (h : Alike Q x y) {f : β → Except ε δ}
    {g : γ → Except ε ζ} (hfg : ∀ a b, Q a b → Alike T (f a) (g b)) :
    Alike T (x >>= f) (y >>= g) := by
  cases h with
  | ok h => exact hfg _ _ h
  | error e => exact .error e

theorem bind_eq {x : Except ε β} {y : Except ε γ} (h : Alike Q x y) {f : β → Except ε δ}
    {g : γ → Except ε δ} (hfg : ∀ a b, Q a b → g b = f a) : y >>= g = x >>= f := by
  cases h with
  | ok h => exact hfg _ _ h
  | error e => rfl

theorem map {x : Except ε β} {y : Except ε γ} (h : Alike Q x y) {f : β → δ} {g : γ → ζ}
    (hfg : ∀ a b, Q a b → T (f a) (g b)) : Alike T (x.map f) (y.map g) := by
  cases h with
  | ok h => exact .ok (hfg _ _ h)
  | error e => exact .error e

theorem of_map_eq {x y : Except ε β} {f : β → δ} (h : y.map f = x.map f) :
    Alike (fun a b => f b = f a) x y := by
  cases x with
  | ok a =>
    cases y with
    | ok b => exact .ok (by simpa [Except.map] using h)
    | error e => cases h
  | error e =>
    cases y with
    | ok b => cases h
    | error e' =>
      obtain rfl : e' = e := by simpa [Except.map] using h
      exact .error e'

theorem mapM {α : Type} {f : α → Except ε β} {g : α → Except ε γ}
    (h : ∀ x, Alike Q (f x) (g x)) (xs : List α) :
    Alike (List.Forall₂ Q) (xs.mapM f) (xs.mapM g) := by
  induction xs with
  | nil => exact .ok .nil
  | cons x xs ih =>
    simp only [List.mapM_cons]
    exact (h x).bind fun _ _ hab => ih.bind fun _ _ hrest => .ok (.cons hab hrest)

end Alike

inductive AlikeUpTo (E : ε → ε → Prop) (Q : β → γ → Prop) : Except ε β → Except ε γ → Prop
  | ok {x : β} {y : γ} (h : Q x y) : AlikeUpTo E Q (.ok x) (.ok y)
  | error {e e' : ε} (h : E e e') : AlikeUpTo E Q (.error e) (.error e')

namespace AlikeUpTo

variable {E : ε → ε → Prop} {Q : β → γ → Prop}

theorem mono {F : ε → ε → Prop} {T : β → γ → Prop} (hE : ∀ e e', E e e' → F e e')
    (hQ : ∀ a b, Q a b → T a b) {x : Except ε β} {y : Except ε γ} (h : AlikeUpTo E Q x y) :
    AlikeUpTo F T x y := by
  cases h with
  | ok h => exact .ok (hQ _ _ h)
  | error h => exact .error (hE _ _ h)

theorem alike_iff {x : Except ε β} {y : Except ε γ} : Alike Q x y ↔ AlikeUpTo Eq Q x y := by
  constructor
  · rintro (h | e)
    · exact .ok h
    · exact .error rfl
  · rintro (h | rfl)
    · exact .ok h
    · exact .error _

/-- In another order another element may be the first one at fault. -/
theorem mapM_perm (f : β → Except ε γ) {xs ys : List β} (h : xs.Perm ys) :
    AlikeUpTo (fun e e' => (∃ x ∈ xs, f x = .error e) ∧ ∃ y ∈ ys, f y = .error e')
      (fun as bs => as = xs.filterMap (fun x => (f x).toOption) ∧
        bs = ys.filterMap fun y => (f y).toOption)
      (xs.mapM f) (ys.mapM f) := by
  cases hxs : xs.mapM f with
  | ok as =>
    obtain ⟨hall, has⟩ := mapM_eq_ok_iff_filterMap.mp hxs
    have hys : ys.mapM f = .ok (ys.filterMap fun y => (f y).toOption) :=
      mapM_eq_ok_iff_filterMap.mpr ⟨fun y hy => hall y (h.mem_iff.mpr hy), rfl⟩
    rw [hys]
    exact .ok ⟨has, rfl⟩
  | error e =>
    cases hys : ys.mapM f with
    | ok bs =>
      obtain ⟨hall, -⟩ := mapM_eq_ok_iff_filterMap.mp hys
      have hfine : xs.mapM f = .ok (xs.filterMap fun x => (f x).toOption) :=
        mapM_eq_ok_iff_filterMap.mpr ⟨fun x hx => hall x (h.mem_iff.mp hx), rfl⟩
      cases hxs.symm.trans hfine
    | error e' => exact .error ⟨exists_of_mapM_eq_error hxs, exists_of_mapM_eq_error hys⟩

end AlikeUpTo

theorem forall₂_getElem? {P : β → γ → Prop} {xs : List β} {ys : List γ}
    (h : List.Forall₂ P xs ys) (i : Nat) : Option.Rel P xs[i]? ys[i]? := by
  induction h generalizing i with
  | nil => exact .none
  | cons hab _ ih =>
    cases i with
    | zero => exact .some hab
    | succ i => simpa using ih i

theorem forall₂_choose {P : β → γ → Prop} {xs : List β} {ys : List γ} (h : List.Forall₂ P xs ys)
    (is : List Nat) :
    List.Forall₂ P (is.filterMap fun i => xs[i]?) (is.filterMap fun i => ys[i]?) := by
  have hsame : List.Forall₂ Eq is is := by rw [List.forall₂_eq_eq_eq]
  refine List.rel_filterMap (fun i j hij => ?_) hsame
  rw [← hij]
  exact forall₂_getElem? h i

theorem map_eq_of_forall₂ {P : β → γ → Prop} {f : β → δ} {g : γ → δ}
    (h : ∀ x y, P x y → g y = f x) {xs : List β} {ys : List γ} (hxs : List.Forall₂ P xs ys) :
    ys.map g = xs.map f := by
  induction hxs with
  | nil => rfl
  | cons hab _ ih => rw [List.map_cons, List.map_cons, h _ _ hab, ih]

theorem filterMap_getElem?_ne_nil {β : Type} {xs : List β} {indices : List Nat}
    (hne : indices ≠ []) (hlt : ∀ i ∈ indices, i < xs.length) :
    (indices.filterMap fun i => xs[i]?) ≠ [] := by
  cases indices with
  | nil => exact absurd rfl hne
  | cons i rest =>
    rw [List.filterMap_cons, List.getElem?_eq_getElem (hlt i List.mem_cons_self)]
    exact List.cons_ne_nil _ _

end TelescopePointing
