import Mathlib.Data.List.Nodup
import ApiDoc.Keyed

/-!
# Keyed lists as maps

What is in a keyed list after values were written to it one after another.

* Under each name stands the last value that was written there (`get?_putAll`).
* No name stands twice (`nodup_keys_putAll`), so an entry is in the list exactly when it is found under its name (`mem_iff_get?`).
* Two lists in which the same is found hold the same entries, perhaps in another order (`perm_of_get?_eq`); with the names in the same order they are equal (`eq_of_keys_eq`).
-/

namespace ApiDoc.Keyed

variable {α β : Type}

/-- The last of some values that goes by a name. -/
def last? (nameOf : α → String) (name : String) (xs : List α) : Option α :=
  (xs.filter fun x => nameOf x = name).getLast?

/-- Writes values one after another, each under its own name. -/
def putAll (nameOf : α → String) (xs : List α) (m : Keyed α) : Keyed α :=
  xs.foldl (fun acc x => put (nameOf x) x acc) m

def mapValues (f : α → β) (m : Keyed α) : Keyed β := m.map fun e => (e.1, f e.2)

theorem mapValues_id (m : Keyed α) : mapValues id m = m := List.map_id m

theorem mapValues_put (f : α → β) (key : String) (value : α) (m : Keyed α) :
    mapValues f (put key value m) = put key (f value) (mapValues f m) := by
  induction m with
  | nil => rfl
  | cons e rest ih =>
    obtain ⟨k, v⟩ := e
    rw [mapValues] at ih ⊢
    by_cases hk : k = key <;> simp [put, mapValues, hk, ih]

/-! ### The last value of a name -/

theorem last?_append (nameOf : α → String) (name : String) (xs ys : List α) :
    last? nameOf name (xs ++ ys) = (last? nameOf name ys).or (last? nameOf name xs) := by
  rw [last?, List.filter_append, List.getLast?_append]
  rfl

theorem last?_cons (nameOf : α → String) (name : String) (x : α) (xs : List α) :
    last? nameOf name (x :: xs) = (last? nameOf name xs).or (if nameOf x = name then some x else none) := by
  rw [← List.singleton_append, last?_append]
  congr 1
  by_cases h : nameOf x = name <;> simp [last?, h]

theorem last?_map (f : α → β) (nameOf : β → String) (name : String) (xs : List α) :
    last? nameOf name (xs.map f) = (last? (fun x => nameOf (f x)) name xs).map f := by
  rw [last?, List.filter_map, List.getLast?_map]
  rfl

theorem nameOf_last? {nameOf : α → String} {name : String} {xs : List α} {x : α} (h : last? nameOf name xs = some x) :
    nameOf x = name := by
  have hmem : x ∈ xs.filter fun x => nameOf x = name := List.mem_of_getLast? h
  simpa using (List.mem_filter.mp hmem).2

theorem mem_of_last? {nameOf : α → String} {name : String} {xs : List α} {x : α} (h : last? nameOf name xs = some x) : x ∈ xs :=
  (List.mem_filter.mp (List.mem_of_getLast? h)).1

theorem last?_isSome_iff {nameOf : α → String} {name : String} {xs : List α} :
    (last? nameOf name xs).isSome ↔ name ∈ xs.map nameOf := by
  rw [last?, List.getLast?_isSome, ne_eq, List.filter_eq_nil_iff, List.mem_map]
  simp

theorem last?_eq_some_iff {nameOf : α → String} {name : String} {xs : List α} {x : α} :
    last? nameOf name xs = some x ↔
      ∃ before after, xs = before ++ x :: after ∧ nameOf x = name ∧ ∀ y ∈ after, nameOf y ≠ name := by
  constructor
  · intro h
    induction xs with
    | nil => cases h
    | cons y ys ih =>
      rw [last?_cons] at h
      cases hlast : last? nameOf name ys with
      | some z =>
        rw [hlast, Option.some_or] at h
        obtain ⟨before, after, rfl, hname, hafter⟩ := ih (hlast.trans h)
        exact ⟨y :: before, after, rfl, hname, hafter⟩
      | none =>
        rw [hlast, Option.none_or] at h
        split at h
        · rename_i hname
          obtain rfl := Option.some.inj h
          refine ⟨[], ys, rfl, hname, fun z hz hzname => ?_⟩
          have hsome := last?_isSome_iff.mpr (List.mem_map.mpr ⟨z, hz, hzname⟩)
          rw [hlast] at hsome
          cases hsome
        · cases h
  · rintro ⟨before, after, rfl, hname, hafter⟩
    have hnone : last? nameOf name after = none := by
      rw [← Option.not_isSome_iff_eq_none, last?_isSome_iff, List.mem_map]
      rintro ⟨y, hy, hyname⟩
      exact hafter y hy hyname
    rw [last?_append, last?_cons, hnone, if_pos hname]
    rfl

/-! ### Written values -/

theorem putAll_cons (nameOf : α → String) (x : α) (xs : List α) (m : Keyed α) :
    putAll nameOf (x :: xs) m = putAll nameOf xs (put (nameOf x) x m) := rfl

theorem putAll_append (nameOf : α → String) (xs ys : List α) (m : Keyed α) :
    putAll nameOf (xs ++ ys) m = putAll nameOf ys (putAll nameOf xs m) := List.foldl_append

/-- **The last value counts.** -/
theorem get?_putAll (nameOf : α → String) (name : String) (xs : List α) (m : Keyed α) :
    get? name (putAll nameOf xs m) = (last? nameOf name xs).or (get? name m) := by
  induction xs generalizing m with
  | nil => rfl
  | cons x xs ih =>
    rw [putAll_cons, ih, get?_put, last?_cons, Option.or_assoc]
    by_cases h : nameOf x = name <;> simp [h]

theorem mem_keys_put {key name : String} {value : α} {m : Keyed α} : name ∈ keys (put key value m) ↔ name = key ∨ name ∈ keys m := by
  induction m with
  | nil => simp [put, keys]
  | cons e rest ih =>
    obtain ⟨k, v⟩ := e
    simp only [keys, put, List.map_cons] at ih ⊢
    by_cases hk : k = key
    · simp [hk]
    · simp only [hk, ↓reduceIte, List.map_cons, List.mem_cons, ih]
      tauto

theorem mem_put {key : String} {value : α} {m : Keyed α} {e : String × α} (h : e ∈ put key value m) : e.2 = value ∨ e ∈ m := by
  induction m with
  | nil =>
    rw [put, List.mem_singleton] at h
    exact .inl (by rw [h])
  | cons e' rest ih =>
    obtain ⟨k, v⟩ := e'
    rw [put] at h
    split at h
    · rcases List.mem_cons.mp h with rfl | h
      · exact .inl rfl
      · exact .inr (List.mem_cons_of_mem _ h)
    · rcases List.mem_cons.mp h with rfl | h
      · exact .inr List.mem_cons_self
      · exact (ih h).imp_right (List.mem_cons_of_mem _)

theorem nodup_keys_put {key : String} {value : α} {m : Keyed α} (h : (keys m).Nodup) : (keys (put key value m)).Nodup := by
  induction m with
  | nil => simp [put, keys]
  | cons e rest ih =>
    obtain ⟨k, v⟩ := e
    obtain ⟨hk, hrest⟩ := List.nodup_cons.mp h
    rw [put]
    split
    · exact h
    · rename_i hne
      refine List.nodup_cons.mpr ⟨fun hmem => ?_, ih hrest⟩
      exact (mem_keys_put.mp hmem).elim hne hk

theorem nodup_keys_putAll (nameOf : α → String) (xs : List α) {m : Keyed α} (h : (keys m).Nodup) :
    (keys (putAll nameOf xs m)).Nodup := by
  induction xs generalizing m with
  | nil => exact h
  | cons x xs ih => exact ih (nodup_keys_put h)

/-! ### Lists written from the start -/

theorem keys_mapValues (f : α → β) (m : Keyed α) : keys (mapValues f m) = keys m := by
  rw [keys, mapValues, List.map_map]
  rfl

theorem get?_mapValues (f : α → β) (name : String) (m : Keyed α) : get? name (mapValues f m) = (get? name m).map f := by
  induction m with
  | nil => rfl
  | cons e rest ih =>
    obtain ⟨k, v⟩ := e
    rw [mapValues, List.map_cons, get?, get?]
    split
    · rfl
    · exact ih

theorem ofList_eq_mapValues (es : List (String × α)) : ofList es = mapValues Prod.snd (putAll Prod.fst es []) := by
  have hall (m : Keyed (String × α)) :
      es.foldl (fun acc e => put e.1 e.2 acc) (mapValues Prod.snd m) = mapValues Prod.snd (putAll Prod.fst es m) := by
    induction es generalizing m with
    | nil => rfl
    | cons e es ih => rw [List.foldl_cons, ← mapValues_put, ih, putAll_cons]
  exact hall []

theorem nodup_keys_ofList (es : List (String × α)) : (keys (ofList es)).Nodup := by
  rw [ofList_eq_mapValues, keys_mapValues]
  exact nodup_keys_putAll Prod.fst es (by simp [keys])

theorem get?_ofList (name : String) (es : List (String × α)) : get? name (ofList es) = (last? Prod.fst name es).map Prod.snd := by
  rw [ofList_eq_mapValues, get?_mapValues, get?_putAll, get?_nil, Option.or_none]

/-! ### Lists of one kind of value -/

/-- No name stands twice, and every value is of some kind. -/
structure Tidy (Kind : α → Prop) (m : Keyed α) : Prop where
  nodup : (keys m).Nodup
  forall_mem : ∀ e ∈ m, Kind e.2

section

variable {Kind : α → Prop}

theorem tidy_nil : Tidy Kind [] := ⟨List.nodup_nil, by simp⟩

theorem Tidy.put {m : Keyed α} (h : Tidy Kind m) (key : String) {value : α} (hvalue : Kind value) :
    Tidy Kind (put key value m) where
  nodup := nodup_keys_put h.nodup
  forall_mem e he := by
    rcases mem_put he with heq | he
    · exact heq ▸ hvalue
    · exact h.forall_mem e he

theorem Tidy.of_perm {m m' : Keyed α} (h : Tidy Kind m) (hperm : m'.Perm m) : Tidy Kind m' where
  nodup := (hperm.map Prod.fst).nodup_iff.mpr h.nodup
  forall_mem e he := h.forall_mem e (hperm.mem_iff.mp he)

end

/-! ### Entries and what is found -/

theorem mem_of_get? {key : String} {value : α} {m : Keyed α} (h : get? key m = some value) : (key, value) ∈ m := by
  induction m with
  | nil => cases h
  | cons e rest ih =>
    obtain ⟨k, v⟩ := e
    rw [get?] at h
    split at h
    · rename_i hk
      rw [hk, Option.some.inj h]
      exact List.mem_cons_self
    · exact List.mem_cons_of_mem _ (ih h)

theorem mem_iff_get? {m : Keyed α} (h : (keys m).Nodup) {name : String} {value : α} :
    (name, value) ∈ m ↔ get? name m = some value := by
  induction m with
  | nil => simp
  | cons e rest ih =>
    obtain ⟨k, v⟩ := e
    obtain ⟨hk, hrest⟩ := List.nodup_cons.mp h
    rw [List.mem_cons, ih hrest, get?]
    by_cases hname : k = name
    · subst hname
      -- the name of the first entry is not found behind it
      have hnone : get? k rest ≠ some value := fun hget =>
        hk (List.mem_map.mpr ⟨(k, value), (ih hrest).mpr hget, rfl⟩)
      simp [hnone, eq_comm]
    · simp [hname, Ne.symm hname]

/-- Lists in which the same is found hold the same entries. -/
theorem perm_of_get?_eq {m m' : Keyed α} (h : (keys m).Nodup) (h' : (keys m').Nodup)
    (heq : ∀ name, get? name m = get? name m') : m.Perm m' := by
  rw [List.perm_ext_iff_of_nodup (List.Nodup.of_map _ h) (List.Nodup.of_map _ h')]
  rintro ⟨name, value⟩
  rw [mem_iff_get? h, mem_iff_get? h', heq]

theorem keys_put (key : String) (value : α) (m : Keyed α) :
    keys (put key value m) = if key ∈ keys m then keys m else keys m ++ [key] := by
  induction m with
  | nil => simp [put, keys]
  | cons e rest ih =>
    obtain ⟨k, v⟩ := e
    simp only [keys, put, List.map_cons, List.mem_cons] at ih ⊢
    by_cases hk : k = key
    · simp [hk]
    · simp only [hk, Ne.symm hk, ↓reduceIte, List.map_cons, ih, false_or]
      by_cases hmem : key ∈ rest.map Prod.fst <;> simp [hmem]

theorem put_of_notMem {name : String} {value : α} {m : Keyed α} (h : name ∉ keys m) : put name value m = m ++ [(name, value)] := by
  induction m with
  | nil => rfl
  | cons e rest ih =>
    obtain ⟨k, v⟩ := e
    simp only [keys, List.map_cons, List.mem_cons, not_or] at h
    rw [put, if_neg (Ne.symm h.1), ih h.2]
    rfl

theorem get?_eq_none_of_notMem {name : String} {m : Keyed α} (h : name ∉ keys m) : get? name m = none := by
  induction m with
  | nil => rfl
  | cons e rest ih =>
    obtain ⟨k, v⟩ := e
    simp only [keys, List.map_cons, List.mem_cons, not_or] at h
    rw [get?, if_neg (Ne.symm h.1)]
    exact ih h.2

theorem eq_of_keys_eq {m m' : Keyed α} (h : (keys m).Nodup) (hkeys : keys m = keys m')
    (heq : ∀ name, get? name m = get? name m') : m = m' := by
  induction m generalizing m' with
  | nil => exact (List.map_eq_nil_iff.mp hkeys.symm).symm
  | cons e rest ih =>
    obtain ⟨k, v⟩ := e
    obtain ⟨⟨k', v'⟩, rest', rfl⟩ : ∃ e' rest', m' = e' :: rest' := by
      cases m' with
      | nil => simp [keys] at hkeys
      | cons e' rest' => exact ⟨e', rest', rfl⟩
    simp only [keys, List.map_cons, List.cons.injEq] at hkeys
    obtain ⟨rfl, hrest⟩ := hkeys
    change keys rest = keys rest' at hrest
    obtain ⟨hk, hnodup⟩ := List.nodup_cons.mp h
    have hv : v = v' := by simpa [get?] using heq k
    have htail : ∀ name, get? name rest = get? name rest' := by
      intro name
      by_cases hname : k = name
      · subst hname
        rw [get?_eq_none_of_notMem hk, get?_eq_none_of_notMem (hrest ▸ hk)]
      · simpa [get?, hname] using heq name
    rw [hv, ih hnodup hrest htail]

theorem mem_putAll_iff {nameOf : α → String} {xs : List α} {name : String} {value : α} :
    (name, value) ∈ putAll nameOf xs [] ↔ last? nameOf name xs = some value := by
  have hnodup : (keys (putAll nameOf xs [])).Nodup := nodup_keys_putAll nameOf xs (by simp [keys])
  rw [mem_iff_get? hnodup, get?_putAll, get?_nil, Option.or_none]

theorem ofList_of_nodup {es : List (String × α)} (h : (keys es).Nodup) : ofList es = es := by
  have hall (m : Keyed α) (hm : (keys (m ++ es)).Nodup) : es.foldl (fun acc e => put e.1 e.2 acc) m = m ++ es := by
    induction es generalizing m with
    | nil => rw [List.foldl_nil, List.append_nil]
    | cons e es ih =>
      have hnew : e.1 ∉ keys m := by
        rw [keys, List.map_append, List.map_cons, List.nodup_append] at hm
        exact fun hmem => hm.2.2 _ hmem _ List.mem_cons_self rfl
      rw [List.append_cons] at hm ⊢
      rw [List.foldl_cons, put_of_notMem hnew, ih (List.nodup_cons.mp h).2 _ hm]
  exact hall [] h

theorem filter_eq_get? {m : Keyed α} (h : (keys m).Nodup) (name : String) :
    (m.filter fun e => e.1 = name) = ((get? name m).map fun v => (name, v)).toList := by
  induction m with
  | nil => rfl
  | cons e rest ih =>
    obtain ⟨k, v⟩ := e
    obtain ⟨hk, hrest⟩ := List.nodup_cons.mp h
    have ih := ih hrest
    by_cases hname : k = name
    · subst hname
      rw [get?_eq_none_of_notMem hk] at ih
      simp [get?, ih]
    · simp [get?, hname, ih]

end ApiDoc.Keyed
