import Mathlib.Data.List.Perm.Basic

/-!
# Traversals that can fail

A traversal of a list succeeds exactly when it does at every element, whatever the order of the elements. Which of several faults is reported depends on the order, so only their kind is followed (`exists_foldlM_eq_error`).

Two computations look the same under a view, `x.map view = y.map view`, if both fail with one fault or both succeed with results of one view. Steps in a row and whole traversals look the same if each step does (`map_bind_eq`, `map_foldlM_eq`).
-/

namespace ApiDoc

variable {α β ε σ : Type}

/-! ### Steps in a row -/

theorem bind_eq_ok_iff {x : Except ε α} {f : α → Except ε β} {b : β} :
    (x >>= f) = .ok b ↔ ∃ a, x = .ok a ∧ f a = .ok b := by
  cases x with
  | error e => simp [bind, Except.bind]
  | ok a => simp [bind, Except.bind]

theorem map_eq_ok_iff {x : Except ε α} {f : α → β} {b : β} : x.map f = .ok b ↔ ∃ a, x = .ok a ∧ f a = b := by
  cases x <;> simp [Except.map]

theorem mapError_eq_ok_iff {ε' : Type} {x : Except ε α} {f : ε → ε'} {a : α} : x.mapError f = .ok a ↔ x = .ok a := by
  cases x <;> simp [Except.mapError]

theorem map_map {γ : Type} (x : Except ε α) (f : α → β) (g : β → γ) : (x.map f).map g = x.map fun a => g (f a) := by
  cases x <;> rfl

theorem map_bind_eq {γ δ : Type} {x x' : Except ε α} {k k' : α → Except ε β} {w : α → γ} {view : β → δ}
    (hx : x.map w = x'.map w) (hk : ∀ a a', w a = w a' → (k a).map view = (k' a').map view) :
    (x >>= k).map view = (x' >>= k').map view := by
  cases x with
  | error e =>
    cases x' with
    | error e' =>
      obtain rfl := Except.error.inj hx
      rfl
    | ok a' => cases hx
  | ok a =>
    cases x' with
    | error e' => cases hx
    | ok a' => exact hk a a' (Except.ok.inj hx)

theorem bind_of_eq_ok {x : EStateM ε σ α} {f : α → EStateM ε σ β} {s s' : σ} {a : α} (h : x s = .ok a s') :
    (x >>= f) s = f a s' := by
  simp only [bind, EStateM.bind, h]

theorem bind_of_eq_error {x : EStateM ε σ α} {f : α → EStateM ε σ β} {s s' : σ} {e : ε} (h : x s = .error e s') :
    (x >>= f) s = .error e s' := by
  simp only [bind, EStateM.bind, h]

theorem get_eq_ok (s : σ) : (get : EStateM ε σ σ) s = .ok s s := rfl

/-! ### Traversals with results -/

theorem mapM_eq_ok_iff {f : α → Except ε β} {xs : List α} {ys : List β} :
    xs.mapM f = .ok ys ↔ List.Forall₂ (fun x y => f x = .ok y) xs ys := by
  induction xs generalizing ys with
  | nil =>
    rw [List.mapM_nil, List.forall₂_nil_left_iff]
    exact ⟨fun h => (Except.ok.inj h).symm, fun h => h ▸ rfl⟩
  | cons x xs ih =>
    simp only [List.mapM_cons, List.forall₂_cons_left_iff, bind_eq_ok_iff, ih]
    constructor
    · rintro ⟨y, hy, zs, hzs, hys⟩
      exact ⟨y, zs, hy, hzs, (Except.ok.inj hys).symm⟩
    · rintro ⟨y, zs, hy, hzs, rfl⟩
      exact ⟨y, hy, zs, hzs, rfl⟩

theorem mapM_append_eq_ok {f : α → Except ε β} {xs ys : List α} {zs : List β} (h : (xs ++ ys).mapM f = .ok zs) :
    ∃ as bs, xs.mapM f = .ok as ∧ ys.mapM f = .ok bs ∧ zs = as ++ bs := by
  rw [List.mapM_append] at h
  obtain ⟨as, has, h⟩ := bind_eq_ok_iff.mp h
  obtain ⟨bs, hbs, h⟩ := bind_eq_ok_iff.mp h
  exact ⟨as, bs, has, hbs, (Except.ok.inj h).symm⟩

theorem exists_mapM_eq_ok_iff {f : α → Except ε β} {xs : List α} :
    (∃ ys, xs.mapM f = .ok ys) ↔ ∀ x ∈ xs, ∃ y, f x = .ok y := by
  simp only [mapM_eq_ok_iff]
  induction xs with
  | nil => simp
  | cons x xs ih =>
    rw [List.forall_mem_cons, ← ih]
    constructor
    · rintro ⟨_, h⟩
      obtain ⟨y, ys, hy, hys, rfl⟩ := List.forall₂_cons_left_iff.mp h
      exact ⟨⟨y, hy⟩, ys, hys⟩
    · rintro ⟨⟨y, hy⟩, ys, hys⟩
      exact ⟨y :: ys, .cons hy hys⟩

theorem mem_of_mapM_eq_ok {f : α → Except ε β} {xs : List α} {ys : List β} (h : xs.mapM f = .ok ys) {y : β} (hy : y ∈ ys) :
    ∃ x ∈ xs, f x = .ok y := by
  rw [mapM_eq_ok_iff] at h
  induction h with
  | nil => simp at hy
  | @cons x z xs zs hxz _ ih =>
    rcases List.mem_cons.mp hy with rfl | hy
    · exact ⟨x, List.mem_cons_self, hxz⟩
    · obtain ⟨x', hx', hxy⟩ := ih hy
      exact ⟨x', List.mem_cons_of_mem x hx', hxy⟩

/-- What can be read back at every element can be read back from the whole. -/
theorem map_eq_of_mapM_eq_ok {f : α → Except ε β} {g : β → α} {xs : List α} {ys : List β} (h : xs.mapM f = .ok ys)
    (hg : ∀ x ∈ xs, ∀ y, f x = .ok y → g y = x) : ys.map g = xs := by
  rw [mapM_eq_ok_iff] at h
  induction h with
  | nil => rfl
  | cons hxy _ ih =>
    rw [List.forall_mem_cons] at hg
    rw [List.map_cons, hg.1 _ hxy, ih hg.2]

theorem exists_mapM_eq_ok_of_perm {f : α → Except ε β} {xs xs' : List α} {ys : List β} (hperm : xs.Perm xs')
    (h : xs.mapM f = .ok ys) : ∃ ys', xs'.mapM f = .ok ys' ∧ ys.Perm ys' := by
  rw [mapM_eq_ok_iff] at h
  obtain ⟨ys', hys', hperm'⟩ := List.perm_comp_forall₂ hperm.symm h
  exact ⟨ys', mapM_eq_ok_iff.mpr hys', hperm'.symm⟩

/-! ### Traversals with a state -/

theorem exists_foldlM_eq_ok {f : σ → α → Except ε σ} {xs : List α} (h : ∀ x ∈ xs, ∀ s, ∃ s', f s x = .ok s') (s : σ) :
    ∃ s', xs.foldlM f s = .ok s' := by
  induction xs generalizing s with
  | nil => exact ⟨s, rfl⟩
  | cons x xs ih =>
    rw [List.forall_mem_cons] at h
    obtain ⟨s₁, hs₁⟩ := h.1 s
    rw [List.foldlM_cons, hs₁]
    exact ih h.2 s₁

theorem of_foldlM_eq_ok {Holds : σ → Prop} {f : σ → α → Except ε σ} {xs : List α} {s s' : σ}
    (hstep : ∀ x ∈ xs, ∀ s s', Holds s → f s x = .ok s' → Holds s') (hs : Holds s) (h : xs.foldlM f s = .ok s') : Holds s' := by
  induction xs generalizing s with
  | nil => exact Except.ok.inj h ▸ hs
  | cons x xs ih =>
    rw [List.forall_mem_cons] at hstep
    obtain ⟨s₁, hs₁, h⟩ := bind_eq_ok_iff.mp h
    exact ih hstep.2 (hstep.1 s s₁ hs hs₁) h

/-- Traversals whose steps look the same from states that do look the same. -/
theorem map_foldlM_eq {γ : Type} {f : σ → α → Except ε σ} {f' : σ → β → Except ε σ} {g : α → β} {view : σ → γ}
    (hstep : ∀ s s' x, view s = view s' → (f s x).map view = (f' s' (g x)).map view) (xs : List α) {s s' : σ}
    (hs : view s = view s') : (xs.foldlM f s).map view = ((xs.map g).foldlM f' s').map view := by
  induction xs generalizing s s' with
  | nil => exact congrArg Except.ok hs
  | cons x xs ih =>
    rw [List.map_cons, List.foldlM_cons, List.foldlM_cons]
    exact map_bind_eq (hstep s s' x hs) fun _ _ h => ih h

/-- A fault at some element is a fault of the whole; its kind is one that the elements have. -/
theorem exists_foldlM_eq_error {f : σ → α → Except ε σ} {Kind : ε → Prop} (hkind : ∀ s x e, f s x = .error e → Kind e)
    {xs : List α} {x : α} (hx : x ∈ xs) (hfault : ∀ s, ∃ e, f s x = .error e) (s : σ) :
    ∃ e, Kind e ∧ xs.foldlM f s = .error e := by
  induction xs generalizing s with
  | nil => simp at hx
  | cons y ys ih =>
    rw [List.foldlM_cons]
    cases hy : f s y with
    | error e => exact ⟨e, hkind s y e hy, rfl⟩
    | ok s₁ =>
      -- the element with the fault is not the first
      rcases List.mem_cons.mp hx with rfl | hmem
      · obtain ⟨e, he⟩ := hfault s
        rw [hy] at he
        cases he
      · exact ih hmem s₁

end ApiDoc
