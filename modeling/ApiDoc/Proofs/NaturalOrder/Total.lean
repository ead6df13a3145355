import ApiDoc.Proofs.NaturalOrder

/-!
# Names in a strict total order

Keys are strictly and totally ordered, and different names have different keys, so the names that have keys are strictly and totally ordered too: of two names one precedes the other, or they are the same (`exactlyOne_precedes`).

Distinct names can therefore stand in strictly increasing order in one way only (`eq_of_pairwise_precedes`). Sorting puts them in that order, whichever order they came in (`sortNames_eq_ok_iff`).
-/

namespace ApiDoc.NaturalOrder

open Std

def ExactlyOne (p q r : Prop) : Prop := (p ∧ ¬ q ∧ ¬ r) ∨ (¬ p ∧ q ∧ ¬ r) ∨ (¬ p ∧ ¬ q ∧ r)

/-! ### Keys -/

theorem isStrictTotalOrder_of_cmp {κ : Type} (order : κ → κ → Ordering) [TransCmp order] [LawfulEqCmp order] :
    IsStrictTotalOrder κ fun k k' => order k k' = .lt where
  irrefl k h := by
    have hself : order k k = .eq := ReflCmp.compare_self
    rw [hself] at h
    cases h
  trans _ _ _ := TransCmp.lt_trans
  trichotomous k k' hlt hgt := by
    cases hcompare : order k k' with
    | lt => exact absurd hcompare hlt
    | eq => exact LawfulEqCmp.eq_of_compare hcompare
    | gt => exact absurd (OrientedCmp.lt_of_gt hcompare) hgt

instance : IsStrictTotalOrder Key fun k k' => Key.compare k k' = .lt := isStrictTotalOrder_of_cmp Key.compare

theorem exactlyOne_compare (k k' : Key) : ExactlyOne (Key.compare k k' = .lt) (k = k') (Key.compare k' k = .lt) := by
  have hswap : Key.compare k' k = (Key.compare k k').swap := OrientedCmp.eq_swap
  have heq : k = k' ↔ Key.compare k k' = .eq := LawfulEqCmp.compare_eq_iff_eq.symm
  rw [hswap, heq, ExactlyOne]
  cases Key.compare k k' <;> decide

/-! ### Names -/

variable {a b c : String} {names names' sorted : List String}

theorem precedes_iff {k k' : Key} (hk : naturalKey a = .ok k) (hk' : naturalKey b = .ok k') :
    Precedes a b ↔ Key.compare k k' = .lt := by
  constructor
  · rintro ⟨j, j', hj, hj', hlt⟩
    obtain rfl := Except.ok.inj (hk.symm.trans hj)
    obtain rfl := Except.ok.inj (hk'.symm.trans hj')
    exact hlt
  · intro hlt
    exact ⟨k, k', hk, hk', hlt⟩

instance (a b : String) : Decidable (Precedes a b) :=
  match hk : naturalKey a, hk' : naturalKey b with
  | .ok k, .ok k' => decidable_of_iff (Key.compare k k' = .lt) (precedes_iff hk hk').symm
  | .error _, _ => .isFalse fun ⟨_, _, hj, _⟩ => nomatch hk.symm.trans hj
  | .ok _, .error _ => .isFalse fun ⟨_, _, _, hj, _⟩ => nomatch hk'.symm.trans hj

theorem Precedes.trans (hab : Precedes a b) (hbc : Precedes b c) : Precedes a c := by
  obtain ⟨k, k', hk, hk', hlt⟩ := hab
  obtain ⟨j, k'', hj, hk'', hlt'⟩ := hbc
  obtain rfl := Except.ok.inj (hk'.symm.trans hj)
  exact ⟨k, k'', hk, hk'', TransCmp.lt_trans hlt hlt'⟩

theorem Precedes.asymm (hab : Precedes a b) : ¬ Precedes b a := by
  obtain ⟨k, k', hk, hk', hlt⟩ := hab
  rw [precedes_iff hk' hk]
  exact OrientedCmp.not_lt_of_lt hlt

theorem naturalKey_eq_iff (ha : ¬ HasLongDigits a) : naturalKey a = naturalKey b ↔ a = b := by
  constructor
  · intro h
    obtain ⟨k, hk⟩ := exists_naturalKey_eq_ok_iff.mpr ha
    exact naturalKey_injective hk (h ▸ hk)
  · rintro rfl
    rfl

theorem exactlyOne_precedes (ha : ¬ HasLongDigits a) (hb : ¬ HasLongDigits b) :
    ExactlyOne (Precedes a b) (a = b) (Precedes b a) := by
  obtain ⟨k, hk⟩ := exists_naturalKey_eq_ok_iff.mpr ha
  obtain ⟨k', hk'⟩ := exists_naturalKey_eq_ok_iff.mpr hb
  have hname : a = b ↔ k = k' := by
    rw [← naturalKey_eq_iff ha, hk, hk', Except.ok.injEq]
  rw [precedes_iff hk hk', precedes_iff hk' hk, hname]
  exact exactlyOne_compare k k'

/-! ### Sorted names -/

/-- Names can be put in strictly increasing order in one way only. -/
theorem eq_of_pairwise_precedes (hperm : names.Perm names') (h : names.Pairwise Precedes) (h' : names'.Pairwise Precedes) :
    names = names' :=
  hperm.eq_of_pairwise (fun _ _ _ _ hab hba => absurd hba hab.asymm) h h'

theorem exists_sortNames_eq_ok_iff : (∃ sorted, sortNames names = .ok sorted) ↔ ∀ name ∈ names, ¬ HasLongDigits name := by
  rw [sortNames, exists_sortBy_eq_ok_iff]
  exact forall₂_congr fun _ _ => exists_naturalKey_eq_ok_iff

/-- **The result of sorting distinct names** is their only strictly increasing order. -/
theorem sortNames_eq_ok_iff (hshort : ∀ name ∈ names, ¬ HasLongDigits name) (hnodup : names.Nodup) :
    sortNames names = .ok sorted ↔ sorted.Perm names ∧ sorted.Pairwise Precedes := by
  have hsorts {ys : List String} (h : sortNames names = .ok ys) : ys.Perm names ∧ ys.Pairwise Precedes := by
    refine ⟨perm_of_sortBy h, pairwise_lt_of_sortBy h hnodup ?_⟩
    intro x _ y _ k hx hy
    exact naturalKey_injective hx hy
  refine ⟨hsorts, ?_⟩
  rintro ⟨hperm, hpairwise⟩
  -- sorting gives some strictly increasing order, and there is no other
  obtain ⟨ys, hys⟩ := exists_sortNames_eq_ok_iff.mpr hshort
  obtain ⟨hperm', hpairwise'⟩ := hsorts hys
  rw [hys, eq_of_pairwise_precedes (hperm'.trans hperm.symm) hpairwise' hpairwise]

/-- **Keys put names in a strict total order, and sorting by them forgets the order of its input.** The order of keys is strict and total. A name without a long run of digits has a key, from which it is read back chunk by chunk, so two names have one key only if they are the same; otherwise one of them precedes the other, and not the other way round. Distinct names have one strictly increasing order, and sorting finds it from any order of the same names. -/
theorem naturalKey_embeds (ha : ¬ HasLongDigits a) (hb : ¬ HasLongDigits b)
    (hshort : ∀ name ∈ names, ¬ HasLongDigits name) (hnodup : names.Nodup) (hperm : names.Perm names') :
    IsStrictTotalOrder Key (fun k k' => Key.compare k k' = .lt) ∧
    (∃ k, naturalKey a = .ok k ∧ a.toList = k.flatMap Chunk.source) ∧
    (naturalKey a = naturalKey b ↔ a = b) ∧
    ExactlyOne (Precedes a b) (a = b) (Precedes b a) ∧
    (∀ c, Precedes a b → Precedes b c → Precedes a c) ∧
    ∃ sorted, sorted.Perm names ∧ sorted.Pairwise Precedes ∧
      sortNames names = .ok sorted ∧ sortNames names' = .ok sorted := by
  obtain ⟨k, hk⟩ := exists_naturalKey_eq_ok_iff.mpr ha
  obtain ⟨sorted, hsorted⟩ := exists_sortNames_eq_ok_iff.mpr hshort
  obtain ⟨hsame, hpairwise⟩ := (sortNames_eq_ok_iff hshort hnodup).mp hsorted
  have hshort' : ∀ name ∈ names', ¬ HasLongDigits name := fun name hname => hshort name (hperm.mem_iff.mpr hname)
  have hsorted' : sortNames names' = .ok sorted :=
    (sortNames_eq_ok_iff hshort' (hperm.nodup_iff.mp hnodup)).mpr ⟨hsame.trans hperm, hpairwise⟩
  exact ⟨inferInstance, ⟨k, hk, toList_eq_of_naturalKey hk⟩, naturalKey_eq_iff ha, exactlyOne_precedes ha hb,
    fun c hab hbc => hab.trans hbc, sorted, hsame, hpairwise, hsorted, hsorted'⟩

/-- Names that differ in zeros in front of a number, in what follows it, or in a digit that is text. -/
def numberedNames : List String := ["x٣", "x10", "x9y", "x9", "x", "x09"]

/-- Numbers of one value stand in the order of their digits, and a digit that is not one of `0` to `9` stands as text. -/
theorem naturalKey_embeds_numberedNames :
    (¬ HasLongDigits "x09" ∧ ¬ HasLongDigits "x9" ∧ (∀ name ∈ numberedNames, ¬ HasLongDigits name) ∧ numberedNames.Nodup) ∧
      naturalKey "x09" ≠ naturalKey "x9" ∧ ExactlyOne (Precedes "x09" "x9") ("x09" = "x9") (Precedes "x9" "x09") ∧
      Precedes "x09" "x10" ∧
      sortNames numberedNames = .ok ["x", "x09", "x9", "x9y", "x10", "x٣"] ∧
      sortNames numberedNames.reverse = .ok ["x", "x09", "x9", "x9y", "x10", "x٣"] := by
  have hshort : ∀ name ∈ numberedNames, ¬ HasLongDigits name := by
    intro name hname
    refine not_hasLongDigits_of_length ?_
    revert name
    decide
  have ha : ¬ HasLongDigits "x09" := hshort "x09" (by decide)
  have hb : ¬ HasLongDigits "x9" := hshort "x9" (by decide)
  have hnodup : numberedNames.Nodup := by decide
  obtain ⟨-, -, hkeys, hone, htrans, sorted, hperm, hpairwise, hsorted, hsorted'⟩ :=
    naturalKey_embeds ha hb hshort hnodup numberedNames.reverse_perm.symm
  have hresult : sorted = ["x", "x09", "x9", "x9y", "x10", "x٣"] :=
    eq_of_pairwise_precedes (hperm.trans (by decide)) hpairwise (by decide +kernel)
  rw [← hresult]
  have hbetween : Precedes "x09" "x10" := htrans "x10" (by decide +kernel) (by decide +kernel)
  exact ⟨⟨ha, hb, hshort, hnodup⟩, fun h => absurd (hkeys.mp h) (by decide), hone, hbetween, hsorted, hsorted'⟩

end ApiDoc.NaturalOrder
