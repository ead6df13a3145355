import Mathlib.Data.List.Basic

/-!
# Ordered forests

Trees in a row, each with a row of trees below its root. A forest is written down in pre-order, each root before what is below it, with the depth at which it stands. The depths say where everything belongs: two forests with the same row of depths have the same shape (`shape_eq_of_depths`), and two that are written down alike are equal (`preorder_injective`).
-/

namespace ApiDoc

variable {α β : Type}

/-- A row of trees: the root of the first one, the forest below that root, and the trees after it. -/
inductive Forest (α : Type) where
  | empty
  | cons (root : α) (below after : Forest α)
  deriving DecidableEq, Repr

namespace Forest

def size : Forest α → Nat
  | empty => 0
  | cons _ below after => 1 + below.size + after.size

def map (f : α → β) : Forest α → Forest β
  | empty => empty
  | cons root below after => cons (f root) (below.map f) (after.map f)

/-- The forest without what stands at its nodes. -/
def shape (t : Forest α) : Forest Unit := t.map fun _ => ()

/-- Nodes side by side, with nothing below them. -/
def row : List α → Forest α
  | [] => empty
  | x :: xs => cons x empty (row xs)

/-- The nodes in pre-order, each with its depth; the roots stand at the depth that is given. -/
def preorder (depth : Nat) : Forest α → List (Nat × α)
  | empty => []
  | cons root below after => (depth, root) :: below.preorder (depth + 1) ++ after.preorder depth

theorem length_preorder (t : Forest α) (depth : Nat) : (t.preorder depth).length = t.size := by
  induction t generalizing depth with
  | empty => rfl
  | cons root below after ihb iha =>
    simp only [preorder, size, List.length_append, List.length_cons, ihb, iha]
    omega

theorem preorder_map (f : α → β) (t : Forest α) (depth : Nat) :
    (t.map f).preorder depth = (t.preorder depth).map fun e => (e.1, f e.2) := by
  induction t generalizing depth with
  | empty => rfl
  | cons root below after ihb iha => simp only [map, preorder, List.map_append, List.map_cons, ihb, iha]

theorem preorder_row (xs : List α) (depth : Nat) : (row xs).preorder depth = xs.map fun x => (depth, x) := by
  induction xs with
  | nil => rfl
  | cons x xs ih => simp only [row, preorder, List.nil_append, List.cons_append, List.map_cons, ih]

/-! ### Reading a forest back -/

/-- Entries that cannot belong to a forest with its roots at a depth, because the first of them stands higher up. -/
def EndsAt (depth : Nat) (rest : List (Nat × α)) : Prop := ∀ e ∈ rest.head?, e.1 < depth

theorem endsAt_nil (depth : Nat) : EndsAt depth ([] : List (Nat × α)) := by
  intro e he
  cases he

/-- What follows the forest below a root: trees at the depth of that root, or something higher up. -/
theorem EndsAt.preorder_append {depth : Nat} {rest : List (Nat × α)} (h : EndsAt depth rest) (t : Forest α) :
    EndsAt (depth + 1) (t.preorder depth ++ rest) := by
  intro e he
  cases t with
  | empty => exact Nat.lt_succ_of_lt (h e he)
  | cons root below after =>
    obtain rfl : (depth, root) = e := Option.some.inj he
    exact Nat.lt_succ_self depth

theorem not_endsAt_cons {depth : Nat} {x : α} {rest : List (Nat × α)} : ¬ EndsAt depth ((depth, x) :: rest) :=
  fun h => Nat.lt_irrefl depth (h (depth, x) rfl)

/-- The forest at the front of some entries is known by where they go back above its depth. -/
theorem eq_of_preorder_append {t t' : Forest α} {depth : Nat} {rest rest' : List (Nat × α)} (hrest : EndsAt depth rest)
    (hrest' : EndsAt depth rest') (h : t.preorder depth ++ rest = t'.preorder depth ++ rest') : t = t' ∧ rest = rest' := by
  induction t generalizing t' depth rest rest' with
  | empty =>
    cases t' with
    | empty => exact ⟨rfl, h⟩
    | cons root' below' after' =>
      have hcons : rest = (depth, root') :: (below'.preorder (depth + 1) ++ after'.preorder depth ++ rest') := h
      rw [hcons] at hrest
      exact absurd hrest not_endsAt_cons
  | cons root below after ihb iha =>
    cases t' with
    | empty =>
      have hcons : (depth, root) :: (below.preorder (depth + 1) ++ after.preorder depth ++ rest) = rest' := h
      rw [← hcons] at hrest'
      exact absurd hrest' not_endsAt_cons
    | cons root' below' after' =>
      simp only [preorder, List.cons_append, List.append_assoc] at h
      obtain ⟨hroot, htail⟩ := List.cons.inj h
      obtain ⟨-, rfl⟩ := Prod.mk.inj hroot
      -- the entries below the root end where the trees after it begin
      obtain ⟨rfl, hafter⟩ := ihb (hrest.preorder_append after) (hrest'.preorder_append after') htail
      obtain ⟨rfl, hend⟩ := iha hrest hrest' hafter
      exact ⟨rfl, hend⟩

/-- **A forest is known by its nodes in pre-order with their depths.** -/
theorem preorder_injective {t t' : Forest α} (depth : Nat) (h : t.preorder depth = t'.preorder depth) : t = t' := by
  have happend : t.preorder depth ++ [] = t'.preorder depth ++ [] := by rw [h]
  exact (eq_of_preorder_append (endsAt_nil depth) (endsAt_nil depth) happend).1

/-- **The depths alone say the shape.** -/
theorem shape_eq_of_depths {t : Forest α} {t' : Forest β} (depth : Nat)
    (h : (t.preorder depth).map Prod.fst = (t'.preorder depth).map Prod.fst) : t.shape = t'.shape := by
  have hshape {γ : Type} (u : Forest γ) : u.shape.preorder depth = ((u.preorder depth).map Prod.fst).map fun d => (d, ()) := by
    rw [shape, preorder_map, List.map_map]
    rfl
  apply preorder_injective depth
  rw [hshape, hshape, h]

end Forest

end ApiDoc
