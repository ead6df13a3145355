import ApiDoc.NaturalOrder
import ApiDoc.Proofs.Traversal

/-!
# The natural order is a linear order of names

* The comparisons of texts, chunks and keys are linear orders: transitive, oriented, and equal only at equal arguments.
* A name can be read back from its key (`toList_eq_of_naturalKey`), so different names have different keys, also where their digits have one value.
* A name has a key exactly when it has no long run of digits (`exists_naturalKey_eq_ok_iff`).
* Sorting succeeds exactly when every value has a key (`exists_sortBy_eq_ok_iff`). When different values have different keys, the result is strictly increasing (`pairwise_lt_of_sortBy`) and does not depend on the order they came in (`sortBy_eq_of_perm`).
-/

namespace ApiDoc.NaturalOrder

open Std

/-! ### Orders -/

section Pullback

variable {α β : Type} {cmp : β → β → Ordering} {f : α → β}

instance orientedCmp_onFun [OrientedCmp cmp] : OrientedCmp (Function.onFun cmp f) where
  eq_swap {a b} := show cmp (f a) (f b) = (cmp (f b) (f a)).swap from OrientedCmp.eq_swap

instance transCmp_onFun [TransCmp cmp] : TransCmp (Function.onFun cmp f) where
  isLE_trans {a b c} hab hbc :=
    have hab : (cmp (f a) (f b)).isLE := hab
    have hbc : (cmp (f b) (f c)).isLE := hbc
    show (cmp (f a) (f c)).isLE from TransCmp.isLE_trans hab hbc

end Pullback

theorem compareChars_eq_compareLex : compareChars = List.compareLex (compareOn Char.toNat) := by
  funext as bs
  induction as generalizing bs with
  | nil => cases bs <;> rfl
  | cons a as ih =>
    cases bs with
    | nil => rfl
    | cons b bs =>
      rw [compareChars, ih, List.compareLex_cons_cons]
      rfl

instance : TransCmp compareChars := by
  rw [compareChars_eq_compareLex]
  infer_instance

instance lawfulEqCmp_toNat : LawfulEqCmp (compareOn Char.toNat) where
  compare_self := ReflCmp.compare_self
  eq_of_compare h := Char.toNat_inj.mp (LawfulEqOrd.eq_of_compare h)

instance : LawfulEqCmp compareChars := by
  rw [compareChars_eq_compareLex]
  infer_instance

instance : TransCmp compareText := inferInstanceAs (TransCmp (Function.onFun compareChars String.toList))

instance : LawfulEqCmp compareText where
  compare_self := ReflCmp.compare_self
  eq_of_compare h := String.toList_inj.mp (LawfulEqCmp.eq_of_compare h)

instance : TransCmp Chunk.compare :=
  inferInstanceAs (TransCmp (compareLex (Function.onFun compareText Chunk.text)
    (compareLex (compareOn Chunk.value) (Function.onFun compareText Chunk.digits))))

instance : LawfulEqCmp Chunk.compare where
  compare_self := ReflCmp.compare_self
  eq_of_compare {a b} h := by
    simp only [Chunk.compare, Ordering.then_eq_eq] at h
    obtain ⟨htext, hvalue, hdigits⟩ := h
    obtain ⟨text, value, digits⟩ := a
    obtain rfl : text = b.text := LawfulEqCmp.eq_of_compare htext
    obtain rfl : value = b.value := LawfulEqOrd.eq_of_compare hvalue
    obtain rfl : digits = b.digits := LawfulEqCmp.eq_of_compare hdigits
    rfl

theorem Key.compare_eq_compareLex : Key.compare = List.compareLex Chunk.compare := by
  funext as bs
  induction as generalizing bs with
  | nil => cases bs <;> rfl
  | cons a as ih =>
    cases bs with
    | nil => rfl
    | cons b bs => rw [Key.compare, ih, List.compareLex_cons_cons]

instance : TransCmp Key.compare := by
  rw [Key.compare_eq_compareLex]
  infer_instance

instance : LawfulEqCmp Key.compare := by
  rw [Key.compare_eq_compareLex]
  infer_instance

/-! ### Runs -/

theorem runs_eq_nil {cs : List Char} (h : runs cs = []) : cs = [] := by
  cases cs with
  | nil => rfl
  | cons c cs =>
    rw [runs] at h
    split at h
    · split at h <;> cases h
    · cases h

theorem nil_notMem_runs (cs : List Char) : [] ∉ runs cs := by
  fun_induction runs cs with
  | case1 => simp
  | case2 c cs d ds rest hruns hdigit ih => simpa [hruns] using ih
  | case3 c cs d ds rest hruns hdigit ih => simpa [hruns] using ih
  | case4 c cs hruns ih => simp

/-- A character in front joins the first run or makes a run of its own. -/
theorem runs_cons (c : Char) (cs : List Char) :
    (cs = [] ∧ runs (c :: cs) = [[c]])
      ∨ ∃ d ds rest, runs cs = (d :: ds) :: rest
        ∧ runs (c :: cs) = if c.isDigit = d.isDigit then (c :: d :: ds) :: rest else [c] :: (d :: ds) :: rest := by
  cases hruns : runs cs with
  | nil => exact .inl ⟨runs_eq_nil hruns, by rw [runs, hruns]⟩
  | cons run rest =>
    cases run with
    | nil => exact absurd (hruns ▸ List.mem_cons_self) (nil_notMem_runs cs)
    | cons d ds => exact .inr ⟨d, ds, rest, rfl, by rw [runs, hruns]⟩

theorem flatten_runs (cs : List Char) : (runs cs).flatten = cs := by
  induction cs with
  | nil => rfl
  | cons c cs ih =>
    obtain ⟨rfl, h⟩ | ⟨d, ds, rest, hruns, h⟩ := runs_cons c cs
    · rw [h]
      rfl
    · rw [hruns] at ih
      rw [h]
      split <;> simpa using ih

theorem isDigit_eq_of_mem_run {cs run : List Char} (hrun : run ∈ runs cs) {a b : Char} (ha : a ∈ run) (hb : b ∈ run) :
    a.isDigit = b.isDigit := by
  -- it is enough that the first run is of one kind with its first character
  suffices h : ∀ run ∈ runs cs, ∀ a ∈ run, ∀ b ∈ run, a.isDigit = b.isDigit from h run hrun a ha b hb
  clear hrun ha hb
  induction cs with
  | nil => simp [runs]
  | cons c cs ih =>
    obtain ⟨rfl, h⟩ | ⟨d, ds, rest, hruns, h⟩ := runs_cons c cs
    · simp [h]
    · rw [hruns, List.forall_mem_cons] at ih
      rw [h]
      split
      · rename_i hdigit
        refine List.forall_mem_cons.mpr ⟨?_, ih.2⟩
        have hd : ∀ a ∈ c :: d :: ds, a.isDigit = d.isDigit :=
          List.forall_mem_cons.mpr ⟨hdigit, fun a ha => ih.1 a ha d List.mem_cons_self⟩
        exact fun a ha b hb => (hd a ha).trans (hd b hb).symm
      · refine List.forall_mem_cons.mpr ⟨?_, List.forall_mem_cons.mpr ih⟩
        simp

theorem exists_run_suffix {cs run : List Char} (c : Char) (hrun : run ∈ runs cs) : ∃ run' ∈ runs (c :: cs), run <:+ run' := by
  obtain ⟨rfl, _⟩ | ⟨d, ds, rest, hruns, h⟩ := runs_cons c cs
  · simp [runs] at hrun
  · rw [hruns] at hrun
    rw [h]
    split
    · rcases List.mem_cons.mp hrun with rfl | hmem
      · exact ⟨_, List.mem_cons_self, List.suffix_cons c _⟩
      · exact ⟨run, List.mem_cons_of_mem _ hmem, List.suffix_rfl⟩
    · exact ⟨run, List.mem_cons_of_mem _ hrun, List.suffix_rfl⟩

theorem exists_first_run {ds : List Char} (rest : List Char) (hne : ds ≠ []) (hdigits : ∀ c ∈ ds, c.isDigit = true) :
    ∃ run more, runs (ds ++ rest) = run :: more ∧ ds <+: run := by
  induction ds with
  | nil => exact absurd rfl hne
  | cons c ds ih =>
    rw [List.forall_mem_cons] at hdigits
    obtain ⟨hnil, h⟩ | ⟨e, es, more, hruns, h⟩ := runs_cons c (ds ++ rest)
    · obtain ⟨rfl, _⟩ := List.append_eq_nil_iff.mp hnil
      exact ⟨[c], [], h, List.prefix_rfl⟩
    · cases ds with
      | nil =>
        rw [List.cons_append, h]
        split
        · exact ⟨_, _, rfl, by simp⟩
        · exact ⟨_, _, rfl, by simp⟩
      | cons d ds =>
        obtain ⟨run, more', hruns', hpre⟩ := ih (by simp) hdigits.2
        rw [hruns, List.cons.injEq] at hruns'
        obtain ⟨rfl, rfl⟩ := hruns'
        obtain ⟨rfl, hpre⟩ := List.cons_prefix_cons.mp hpre
        have hdigit : c.isDigit = d.isDigit := by rw [hdigits.1, hdigits.2 d List.mem_cons_self]
        rw [List.cons_append, h, if_pos hdigit]
        exact ⟨_, _, rfl, by simpa using hpre⟩

theorem exists_run_of_digits {cs ds : List Char} (hin : ds <:+: cs) (hne : ds ≠ []) (hdigits : ∀ c ∈ ds, c.isDigit = true) :
    ∃ run ∈ runs cs, ds <:+: run := by
  obtain ⟨before, after, rfl⟩ := hin
  induction before with
  | nil =>
    obtain ⟨run, more, hruns, hpre⟩ := exists_first_run after hne hdigits
    exact ⟨run, by simp [hruns], hpre.isInfix⟩
  | cons c before ih =>
    obtain ⟨run, hrun, hds⟩ := ih
    obtain ⟨run', hrun', hsuffix⟩ := exists_run_suffix c hrun
    exact ⟨run', hrun', hds.trans hsuffix.isInfix⟩

/-! ### Keys -/

/-- A name holds more digits in a row than can be read as a number. -/
def HasLongDigits (name : String) : Prop :=
  ∃ digits, digits <:+: name.toList ∧ (∀ c ∈ digits, c.isDigit = true) ∧ Number.digitLimit < digits.length

theorem not_hasLongDigits_of_length {name : String} (h : name.toList.length ≤ Number.digitLimit) : ¬ HasLongDigits name := by
  rintro ⟨digits, hin, -, hlong⟩
  have := hin.length_le
  omega

theorem exists_chunk_eq_ok_iff {run : List Char} :
    (∃ c, chunk run = .ok c) ↔ ¬ ((∀ c ∈ run, c.isDigit = true) ∧ Number.digitLimit < run.length) := by
  rw [chunk, Number.readDigits, ← List.all_eq_true]
  by_cases hdigits : run.all Char.isDigit = true
  · by_cases hlong : Number.digitLimit < run.length
    · simp only [hdigits, hlong]
      simp [Except.map]
    · simp only [hdigits, hlong]
      simp [Except.map]
  · simp only [hdigits]
    simp

/-- **The names that have a key.** -/
theorem exists_naturalKey_eq_ok_iff {name : String} : (∃ key, naturalKey name = .ok key) ↔ ¬ HasLongDigits name := by
  unfold naturalKey
  rw [exists_mapM_eq_ok_iff, iff_not_comm]
  simp only [exists_chunk_eq_ok_iff, not_forall, not_not, exists_prop]
  constructor
  · rintro ⟨digits, hin, hdigits, hlong⟩
    have hne : digits ≠ [] := by
      rintro rfl
      simp at hlong
    obtain ⟨run, hrun, hds⟩ := exists_run_of_digits hin hne hdigits
    obtain ⟨d, hd⟩ := List.exists_mem_of_ne_nil digits hne
    refine ⟨run, hrun, fun c hc => ?_, Nat.lt_of_lt_of_le hlong hds.length_le⟩
    rw [isDigit_eq_of_mem_run hrun hc (hds.subset hd), hdigits d hd]
  · rintro ⟨run, hrun, hdigits, hlong⟩
    refine ⟨run, ?_, hdigits, hlong⟩
    have hin := List.infix_of_mem_flatten hrun
    rwa [flatten_runs] at hin

def Chunk.source (c : Chunk) : List Char := if c.digits = "" then c.text.toList else c.digits.toList

theorem source_of_chunk {run : List Char} (hne : run ≠ []) {c : Chunk} (h : chunk run = .ok c) : c.source = run := by
  rw [chunk] at h
  split at h
  · obtain ⟨n, -, rfl⟩ := map_eq_ok_iff.mp h
    have hdigits : String.ofList run ≠ "" := by simpa using hne
    simp [Chunk.source, hdigits]
  · obtain rfl := Except.ok.inj h
    simp [Chunk.source]

theorem toList_eq_of_naturalKey {name : String} {key : Key} (h : naturalKey name = .ok key) :
    name.toList = key.flatMap Chunk.source := by
  have hsource : ∀ run ∈ runs name.toList, ∀ c, chunk run = .ok c → c.source = run := fun run hrun c hc =>
    source_of_chunk (fun hnil => nil_notMem_runs name.toList (hnil ▸ hrun)) hc
  rw [List.flatMap_def, map_eq_of_mapM_eq_ok h hsource, flatten_runs]

/-- **Different names have different keys.** -/
theorem naturalKey_injective {name name' : String} {key : Key} (h : naturalKey name = .ok key)
    (h' : naturalKey name' = .ok key) : name = name' := by
  rw [← String.toList_inj, toList_eq_of_naturalKey h, toList_eq_of_naturalKey h']

/-- A name comes before another. -/
def Precedes (a b : String) : Prop :=
  ∃ k k', naturalKey a = .ok k ∧ naturalKey b = .ok k' ∧ Key.compare k k' = .lt

/-! ### Sorting -/

variable {α κ : Type} {key : α → Except Number.TooManyDigits κ} {order : κ → κ → Ordering} {xs xs' : List α}

theorem exists_withKeys_eq_ok_iff : (∃ pairs, withKeys key xs = .ok pairs) ↔ ∀ x ∈ xs, ∃ k, key x = .ok k := by
  simp only [withKeys, exists_mapM_eq_ok_iff, map_eq_ok_iff]
  refine forall₂_congr fun x _ => ⟨?_, ?_⟩
  · rintro ⟨_, k, hk, -⟩
    exact ⟨k, hk⟩
  · rintro ⟨k, hk⟩
    exact ⟨_, k, hk, rfl⟩

theorem exists_sortBy_eq_ok_iff : (∃ ys, sortBy key order xs = .ok ys) ↔ ∀ x ∈ xs, ∃ k, key x = .ok k := by
  rw [← exists_withKeys_eq_ok_iff]
  simp only [sortBy, map_eq_ok_iff]
  exact ⟨fun ⟨_, pairs, hpairs, _⟩ => ⟨pairs, hpairs⟩, fun ⟨pairs, hpairs⟩ => ⟨_, pairs, hpairs, rfl⟩⟩

theorem key_of_mem_withKeys {pairs : List (κ × α)} (h : withKeys key xs = .ok pairs) {pair : κ × α} (hpair : pair ∈ pairs) :
    pair.2 ∈ xs ∧ key pair.2 = .ok pair.1 := by
  obtain ⟨x, hx, hkey⟩ := mem_of_mapM_eq_ok h hpair
  obtain ⟨k, hk, rfl⟩ := map_eq_ok_iff.mp hkey
  exact ⟨hx, hk⟩

theorem perm_of_sortBy {ys : List α} (h : sortBy key order xs = .ok ys) : ys.Perm xs := by
  obtain ⟨pairs, hpairs, rfl⟩ := map_eq_ok_iff.mp h
  have hvalues : pairs.map Prod.snd = xs := by
    refine map_eq_of_mapM_eq_ok hpairs fun x _ pair hpair => ?_
    obtain ⟨k, -, rfl⟩ := map_eq_ok_iff.mp hpair
    rfl
  rw [← hvalues]
  exact (List.mergeSort_perm pairs _).map Prod.snd

/-- A change of values that keeps their keys may be made before or after sorting. -/
theorem sortBy_map {β : Type} {f : α → β} {key' : β → Except Number.TooManyDigits κ} (hkey : ∀ x, key' (f x) = key x) :
    sortBy key' order (xs.map f) = (sortBy key order xs).map (List.map f) := by
  have hpairs : withKeys key' (xs.map f) = (withKeys key xs).map (List.map fun p => (p.1, f p.2)) := by
    rw [withKeys, withKeys, List.mapM_map]
    induction xs with
    | nil => rfl
    | cons x xs ih =>
      rw [List.mapM_cons, List.mapM_cons, ih, Function.comp_apply, hkey]
      cases key x with
      | error e => rfl
      | ok k =>
        cases xs.mapM fun x => (key x).map fun k => (k, x) <;> rfl
  rw [sortBy, sortBy, hpairs]
  cases withKeys key xs with
  | error e => rfl
  | ok pairs =>
    have hsort : (pairs.mergeSort fun p q => order p.1 q.1 != .gt).map (fun p => (p.1, f p.2)) =
        (pairs.map fun p => (p.1, f p.2)).mergeSort fun p q => order p.1 q.1 != .gt :=
      List.map_mergeSort fun _ _ _ _ => rfl
    simp only [Except.map, ← hsort, List.map_map]
    rfl

theorem pairwise_mergeSort_keys (order : κ → κ → Ordering) [TransCmp order] (pairs : List (κ × α)) :
    (pairs.mergeSort fun p q => order p.1 q.1 != .gt).Pairwise fun p q => (order p.1 q.1 != .gt) = true := by
  refine List.pairwise_mergeSort (fun p q r hpq hqr => ?_) (fun p q => ?_) pairs
  · rw [bne_iff_ne, ne_eq, Ordering.ne_gt_iff_isLE] at hpq hqr ⊢
    exact TransCmp.isLE_trans hpq hqr
  · have hswap : order p.1 q.1 = (order q.1 p.1).swap := OrientedCmp.eq_swap
    rw [hswap]
    cases order q.1 p.1 <;> decide

theorem pairwise_of_sortBy [TransCmp order] {ys : List α} (h : sortBy key order xs = .ok ys) :
    ys.Pairwise fun x y => ∃ k k', key x = .ok k ∧ key y = .ok k' ∧ order k k' ≠ .gt := by
  obtain ⟨pairs, hpairs, rfl⟩ := map_eq_ok_iff.mp h
  rw [List.pairwise_map]
  refine (pairwise_mergeSort_keys order pairs).imp_of_mem fun {p q} hp hq hpq => ?_
  exact ⟨p.1, q.1, (key_of_mem_withKeys hpairs (List.mem_mergeSort.mp hp)).2,
    (key_of_mem_withKeys hpairs (List.mem_mergeSort.mp hq)).2, bne_iff_ne.mp hpq⟩

theorem pairwise_lt_of_sortBy [TransCmp order] [LawfulEqCmp order] {ys : List α} (h : sortBy key order xs = .ok ys)
    (hnodup : xs.Nodup) (hinj : ∀ x ∈ xs, ∀ y ∈ xs, ∀ k, key x = .ok k → key y = .ok k → x = y) :
    ys.Pairwise fun x y => ∃ k k', key x = .ok k ∧ key y = .ok k' ∧ order k k' = .lt := by
  have hperm := perm_of_sortBy h
  refine ((pairwise_of_sortBy h).and (hperm.nodup_iff.mpr hnodup)).imp_of_mem fun {x y} hx hy hxy => ?_
  obtain ⟨⟨k, k', hk, hk', horder⟩, hne⟩ := hxy
  refine ⟨k, k', hk, hk', ?_⟩
  cases hcompare : order k k' with
  | lt => rfl
  | eq =>
    obtain rfl : k = k' := LawfulEqCmp.eq_of_compare hcompare
    exact absurd (hinj x (hperm.mem_iff.mp hx) y (hperm.mem_iff.mp hy) k hk hk') hne
  | gt => exact absurd hcompare horder

theorem mergeSort_eq_of_perm (order : κ → κ → Ordering) [TransCmp order] [LawfulEqCmp order] {pairs pairs' : List (κ × α)}
    (hperm : pairs.Perm pairs') (hinj : ∀ p ∈ pairs, ∀ q ∈ pairs, p.1 = q.1 → p = q) :
    pairs.mergeSort (fun p q => order p.1 q.1 != .gt) = pairs'.mergeSort (fun p q => order p.1 q.1 != .gt) := by
  refine List.Perm.eq_of_pairwise (fun p q hp hq hpq hqp => ?_)
    (pairwise_mergeSort_keys order pairs) (pairwise_mergeSort_keys order pairs')
    ((List.mergeSort_perm pairs _).trans (hperm.trans (List.mergeSort_perm pairs' _).symm))
  -- neither comes after the other, so the keys are equal
  rw [bne_iff_ne, ne_eq, Ordering.ne_gt_iff_isLE] at hpq hqp
  have hkey : p.1 = q.1 := LawfulEqCmp.eq_of_compare (OrientedCmp.isLE_antisymm hpq hqp)
  exact hinj p (List.mem_mergeSort.mp hp) q (hperm.mem_iff.mpr (List.mem_mergeSort.mp hq)) hkey

/-- **Sorting forgets the order of its input** when no two values have one key. -/
theorem sortBy_eq_of_perm [TransCmp order] [LawfulEqCmp order] (hperm : xs.Perm xs') (hok : ∀ x ∈ xs, ∃ k, key x = .ok k)
    (hinj : ∀ x ∈ xs, ∀ y ∈ xs, ∀ k, key x = .ok k → key y = .ok k → x = y) :
    ∃ ys, sortBy key order xs = .ok ys ∧ sortBy key order xs' = .ok ys := by
  obtain ⟨pairs, hpairs⟩ := exists_withKeys_eq_ok_iff.mpr hok
  obtain ⟨pairs', hpairs', hperm'⟩ : ∃ pairs', withKeys key xs' = .ok pairs' ∧ pairs.Perm pairs' :=
    exists_mapM_eq_ok_of_perm hperm hpairs
  have hpairinj : ∀ p ∈ pairs, ∀ q ∈ pairs, p.1 = q.1 → p = q := by
    intro p hp q hq hkey
    obtain ⟨hpmem, hpkey⟩ := key_of_mem_withKeys hpairs hp
    obtain ⟨hqmem, hqkey⟩ := key_of_mem_withKeys hpairs hq
    exact Prod.ext hkey (hinj p.2 hpmem q.2 hqmem q.1 (hkey ▸ hpkey) hqkey)
  refine ⟨(pairs.mergeSort fun p q => order p.1 q.1 != .gt).map Prod.snd, ?_, ?_⟩
  · rw [sortBy, hpairs]
    rfl
  · rw [sortBy, hpairs', mergeSort_eq_of_perm order hperm' hpairinj]
    rfl

end ApiDoc.NaturalOrder
