import Mathlib.Data.List.Basic
import ApiDoc.Proofs.Traversal
import ApiDoc.Yaml.Read

/-!
# Keys of mappings

In a mapping that is read from a text no key stands twice (`IsRead.apart`), at any depth: the values of a mapping are read like the mapping itself (`IsRead.of_mem`).
-/

namespace ApiDoc.Yaml

variable {key : Scalar} {value : Value} {entries : List (Scalar × Value)}

/-! ### Equal keys -/

theorem sameKey_str_iff {k : Scalar} {a : String} : k.sameKey (.str a) = true ↔ k = .str a := by
  have heq : k.sameKey (.str a) = (k == .str a) := by
    unfold Scalar.sameKey
    split
    · rename_i hnone
      cases hnone
    · rfl
  rw [heq, beq_iff_eq]

theorem str_sameKey_iff {k : Scalar} {a : String} : (Scalar.str a).sameKey k = true ↔ k = .str a := by
  have heq : (Scalar.str a).sameKey k = (Scalar.str a == k) := by
    unfold Scalar.sameKey
    split
    · rename_i hnone _
      cases hnone
    · rfl
  rw [heq, beq_iff_eq, eq_comm]

/-! ### Writing entries -/

def Apart (entries : List (Scalar × Value)) : Prop := (entries.map Prod.fst).Pairwise fun k k' => k.sameKey k' = false

def putAll (pairs entries : List (Scalar × Value)) : List (Scalar × Value) :=
  pairs.foldl (fun done e => Value.put e.1 e.2 done) entries

theorem Value.mem_put {e : Scalar × Value} (h : e ∈ Value.put key value entries) : e.2 = value ∨ e ∈ entries := by
  induction entries with
  | nil =>
    rw [Value.put, List.mem_singleton] at h
    exact .inl (by rw [h])
  | cons e' rest ih =>
    obtain ⟨k, v⟩ := e'
    rw [Value.put] at h
    split at h
    · rcases List.mem_cons.mp h with rfl | h
      · exact .inl rfl
      · exact .inr (List.mem_cons_of_mem _ h)
    · rcases List.mem_cons.mp h with rfl | h
      · exact .inr List.mem_cons_self
      · exact (ih h).imp_right (List.mem_cons_of_mem _)

theorem map_fst_put : (Value.put key value entries).map Prod.fst =
    if entries.any (fun e => e.1.sameKey key) then entries.map Prod.fst else entries.map Prod.fst ++ [key] := by
  induction entries with
  | nil => rfl
  | cons e rest ih =>
    obtain ⟨k, v⟩ := e
    rw [Value.put, List.any_cons]
    cases h : k.sameKey key with
    | true => rfl
    | false =>
      rw [if_neg Bool.false_ne_true, List.map_cons, ih, Bool.false_or]
      split <;> rfl

theorem apart_nil : Apart [] := List.Pairwise.nil

theorem Apart.put (h : Apart entries) (key : Scalar) (value : Value) : Apart (Value.put key value entries) := by
  rw [Apart, map_fst_put]
  split
  · exact h
  · rename_i hnew
    rw [List.any_eq_true, not_exists] at hnew
    rw [List.pairwise_append]
    refine ⟨h, List.pairwise_singleton _ _, ?_⟩
    intro k hk k' hk'
    obtain ⟨e, he, rfl⟩ := List.mem_map.mp hk
    rw [List.mem_singleton.mp hk', Bool.eq_false_iff]
    exact fun hsame => hnew e ⟨he, hsame⟩

theorem Apart.putAll (h : Apart entries) (pairs : List (Scalar × Value)) : Apart (putAll pairs entries) := by
  induction pairs generalizing entries with
  | nil => exact h
  | cons e pairs ih => exact ih (h.put e.1 e.2)

theorem mem_putAll {pairs : List (Scalar × Value)} {e : Scalar × Value} (h : e ∈ putAll pairs entries) :
    (∃ p ∈ pairs, e.2 = p.2) ∨ e ∈ entries := by
  induction pairs generalizing entries with
  | nil => exact .inr h
  | cons p pairs ih =>
    rcases ih h with ⟨q, hq, heq⟩ | hmem
    · exact .inl ⟨q, List.mem_cons_of_mem _ hq, heq⟩
    · rcases Value.mem_put hmem with heq | hmem
      · exact .inl ⟨p, List.mem_cons_self, heq⟩
      · exact .inr hmem

/-! ### Reading -/

def IsRead (v : Value) : Prop := ∃ fuel n, valueOf fuel n = .ok v

/-- A mapping that is read has its entries written one after another. -/
theorem IsRead.exists_pairs (h : IsRead (.map entries)) :
    ∃ pairs : List (Scalar × Value), (∀ e ∈ pairs, IsRead e.2) ∧ entries = putAll pairs [] := by
  obtain ⟨fuel, n, h⟩ := h
  cases fuel with
  | zero => cases h
  | succ fuel =>
    unfold valueOf at h
    split at h
    · obtain ⟨items, -, h⟩ := bind_eq_ok_iff.mp h
      cases h
    · obtain ⟨flat, -, h⟩ := bind_eq_ok_iff.mp h
      obtain ⟨pairs, hpairs, h⟩ := bind_eq_ok_iff.mp h
      refine ⟨pairs, fun e he => ?_, (Value.map.inj (Except.ok.inj h)).symm⟩
      obtain ⟨node, -, hnode⟩ := mem_of_mapM_eq_ok hpairs he
      obtain ⟨k, -, hnode⟩ := bind_eq_ok_iff.mp hnode
      obtain ⟨v, hv, hnode⟩ := bind_eq_ok_iff.mp hnode
      obtain rfl := Except.ok.inj hnode
      exact ⟨fuel, _, hv⟩
    · obtain ⟨keys, -, h⟩ := bind_eq_ok_iff.mp h
      obtain ⟨keys', -, h⟩ := bind_eq_ok_iff.mp h
      cases h
    · obtain ⟨pairs, -, h⟩ := bind_eq_ok_iff.mp h
      obtain ⟨items, -, h⟩ := bind_eq_ok_iff.mp h
      cases h
    · split at h
      · cases h
      · obtain ⟨s, -, h⟩ := bind_eq_ok_iff.mp h
        cases h

/-- **In a mapping that is read no key stands twice.** -/
theorem IsRead.apart (h : IsRead (.map entries)) : Apart entries := by
  obtain ⟨pairs, -, rfl⟩ := h.exists_pairs
  exact apart_nil.putAll pairs

theorem IsRead.of_mem (h : IsRead (.map entries)) {e : Scalar × Value} (he : e ∈ entries) : IsRead e.2 := by
  obtain ⟨pairs, hpairs, rfl⟩ := h.exists_pairs
  rcases mem_putAll he with ⟨p, hp, heq⟩ | hnil
  · rw [heq]
    exact hpairs p hp
  · cases hnil

theorem isRead_of_read {text : List Char} {v : Value} (h : read text = .ok v) : v = .null ∨ IsRead v := by
  obtain ⟨⟨root, fuel⟩, -, h⟩ := bind_eq_ok_iff.mp h
  cases root with
  | none => exact .inl (Except.ok.inj h).symm
  | some root =>
    obtain ⟨-, -, h⟩ := bind_eq_ok_iff.mp h
    obtain ⟨-, -, h⟩ := bind_eq_ok_iff.mp h
    exact .inr ⟨fuel, root, h⟩

theorem mem_of_find? (h : Value.find? key entries = some value) : ∃ e ∈ entries, e.2 = value := by
  induction entries with
  | nil => cases h
  | cons e rest ih =>
    obtain ⟨k, v⟩ := e
    rw [Value.find?] at h
    split at h
    · exact ⟨(k, v), List.mem_cons_self, Option.some.inj h⟩
    · obtain ⟨e, he, hvalue⟩ := ih h
      exact ⟨e, List.mem_cons_of_mem _ he, hvalue⟩

theorem find?_put_self (hkey : key.sameKey key = true) : Value.find? key (Value.put key value entries) = some value := by
  induction entries with
  | nil => rw [Value.put, Value.find?, if_pos hkey]
  | cons e rest ih =>
    obtain ⟨k, v⟩ := e
    rw [Value.put]
    split
    · rename_i hsame
      rw [Value.find?, if_pos hsame]
    · rename_i hother
      rw [Value.find?, if_neg hother, ih]

end ApiDoc.Yaml
