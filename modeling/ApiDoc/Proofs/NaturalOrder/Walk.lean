import ApiDoc.Proofs.NaturalOrder

/-!
# Natural order by a walk over two names

Where every character of two names is a digit or stands above the digits, comparing their keys is the same as walking both names from the left (`walk`): numbers that meet are compared whole, everything else one character at a time.

A key groups a name into chunks, and a chunk of text may end in one name where it goes on in the other. What follows the shorter chunk is then a number or nothing, and a number stands as the text `0`, below every character that can go on a text. So the place where a chunk ends decides as the characters there do (`compare_keyOf_cons`).
-/

namespace ApiDoc.NaturalOrder

open Std

/-- The digits that a text starts with. -/
def leadingDigits (cs : List Char) : List Char := cs.takeWhile Char.isDigit

/-- What follows the digits that a text starts with. -/
def afterDigits (cs : List Char) : List Char := cs.dropWhile Char.isDigit

/-- Compares digits by the number that they spell, and as texts where that is the same. -/
def compareDigits (ds es : List Char) : Ordering :=
  (compare (Number.ofDigits ds) (Number.ofDigits es)).then (compareChars ds es)

/-- Walks two names side by side up to the first difference. Numbers are passed as a whole, so a digit that is met is the first of its number. -/
def walk : List Char → List Char → Ordering
  | [], [] => .eq
  | [], _ :: _ => .lt
  | _ :: _, [] => .gt
  | c :: cs, d :: ds =>
    if c.isDigit = true ∧ d.isDigit = true then
      (compareDigits (c :: leadingDigits cs) (d :: leadingDigits ds)).then (walk (afterDigits cs) (afterDigits ds))
    else (compare c.toNat d.toNat).then (walk cs ds)
termination_by cs => cs.length
decreasing_by
  · have := (List.dropWhile_suffix Char.isDigit (l := cs)).length_le
    simp only [afterDigits, List.length_cons]
    omega
  · simp

/-- Every character is a digit or stands above the digits, as in an identifier. -/
def IsIdentifier (cs : List Char) : Prop := ∀ c ∈ cs, c.isDigit = true ∨ '9' < c

instance (cs : List Char) : Decidable (IsIdentifier cs) := List.decidableBAll (fun c : Char => c.isDigit = true ∨ '9' < c) cs

theorem IsIdentifier.of_cons {c : Char} {cs : List Char} (h : IsIdentifier (c :: cs)) : IsIdentifier cs :=
  fun d hd => h d (List.mem_cons_of_mem c hd)

theorem IsIdentifier.afterDigits {cs : List Char} (h : IsIdentifier cs) : IsIdentifier (afterDigits cs) :=
  fun d hd => h d ((List.dropWhile_suffix Char.isDigit).subset hd)

/-! ### Characters -/

theorem nine_lt_iff {c : Char} : '9' < c ↔ 57 < c.toNat := Iff.rfl

theorem toNat_le_of_isDigit {c : Char} (h : c.isDigit = true) : c.toNat ≤ 57 := (Char.isDigit_iff_toNat.mp h).2

theorem nine_lt_of_not_isDigit {c : Char} {cs : List Char} (h : IsIdentifier (c :: cs)) (hc : ¬ c.isDigit = true) : 57 < c.toNat :=
  nine_lt_iff.mp ((h c List.mem_cons_self).resolve_left hc)

theorem compare_toNat_of_isDigit {c d : Char} (hc : c.isDigit = true) (hd : 57 < d.toNat) : compare c.toNat d.toNat = .lt := by
  have := toNat_le_of_isDigit hc
  rw [Nat.compare_eq_lt]
  omega

/-! ### Keys of texts and numbers -/

/-- The chunk of a run, whatever its length. -/
def chunkOf (run : List Char) : Chunk :=
  if run.all Char.isDigit then ⟨"0", Number.ofDigits run, String.ofList run⟩ else ⟨String.ofList run, 0, ""⟩

/-- The key of a name, whatever the length of its numbers. -/
def keyOf (cs : List Char) : Key := (runs cs).map chunkOf

theorem eq_chunkOf {run : List Char} {c : Chunk} (h : chunk run = .ok c) : c = chunkOf run := by
  rw [chunk] at h
  rw [chunkOf]
  split at h
  · rename_i hdigits
    obtain ⟨n, hn, rfl⟩ := map_eq_ok_iff.mp h
    rw [Number.readDigits] at hn
    split at hn
    · cases hn
    · rw [if_pos hdigits, ← Except.ok.inj hn]
  · rename_i hdigits
    rw [if_neg hdigits, ← Except.ok.inj h]

theorem eq_keyOf {name : String} {key : Key} (h : naturalKey name = .ok key) : key = keyOf name.toList := by
  rw [naturalKey, mapM_eq_ok_iff] at h
  rw [keyOf]
  generalize runs name.toList = parts at h ⊢
  induction h with
  | nil => rfl
  | cons hchunk _ ih => rw [List.map_cons, ← eq_chunkOf hchunk, ih]

def textChunk (cs : List Char) : Chunk := ⟨String.ofList cs, 0, ""⟩

def digitChunk (ds : List Char) : Chunk := ⟨"0", Number.ofDigits ds, String.ofList ds⟩

theorem exists_runs_cons (c : Char) (cs : List Char) : ∃ run rest, runs (c :: cs) = (c :: run) :: rest := by
  obtain ⟨-, h⟩ | ⟨d, ds, rest, -, h⟩ := runs_cons c cs
  · exact ⟨[], [], h⟩
  · rw [h]
    split
    · exact ⟨_, _, rfl⟩
    · exact ⟨_, _, rfl⟩

theorem runs_digits {c : Char} (hc : c.isDigit = true) (cs : List Char) :
    runs (c :: cs) = (c :: leadingDigits cs) :: runs (afterDigits cs) := by
  induction cs generalizing c with
  | nil => rfl
  | cons d ds ih =>
    by_cases hd : d.isDigit = true
    · have hfirst := ih hd
      rw [runs, hfirst]
      simp [leadingDigits, afterDigits, hc, hd]
    · obtain ⟨run, rest, hruns⟩ := exists_runs_cons d ds
      rw [runs, hruns]
      simp [leadingDigits, afterDigits, hc, hd, hruns]

theorem keyOf_digits {c : Char} (hc : c.isDigit = true) (cs : List Char) :
    keyOf (c :: cs) = digitChunk (c :: leadingDigits cs) :: keyOf (afterDigits cs) := by
  have hall : (c :: leadingDigits cs).all Char.isDigit = true := by
    rw [List.all_cons, hc, Bool.true_and, leadingDigits, List.all_takeWhile]
  rw [keyOf, runs_digits hc, List.map_cons, chunkOf, if_pos hall]
  rfl

theorem chunkOf_text {c : Char} (hc : ¬ c.isDigit = true) (cs : List Char) : chunkOf (c :: cs) = textChunk (c :: cs) := by
  have hall : ¬ (c :: cs).all Char.isDigit = true := by simp [hc]
  rw [chunkOf, if_neg hall]
  rfl

/-- A key that starts with no text: it is empty or starts with a number. -/
def StartsNoText (key : Key) : Prop := ∀ chunk ∈ key.head?, chunk.text = "0"

/-- A character of text goes before the text that follows, or stands alone where no text follows. -/
theorem keyOf_text {c : Char} (hc : ¬ c.isDigit = true) (cs : List Char) :
    (StartsNoText (keyOf cs) ∧ keyOf (c :: cs) = textChunk [c] :: keyOf cs)
      ∨ ∃ d ds run rest, cs = d :: ds ∧ ¬ d.isDigit = true ∧ keyOf cs = textChunk (d :: run) :: rest
        ∧ keyOf (c :: cs) = textChunk (c :: d :: run) :: rest := by
  cases cs with
  | nil =>
    left
    refine ⟨by simp [StartsNoText, keyOf, runs], ?_⟩
    have hruns : runs [c] = [[c]] := rfl
    rw [keyOf, hruns, List.map_singleton, chunkOf_text hc]
    rfl
  | cons d ds =>
    by_cases hd : d.isDigit = true
    · left
      have hkey := keyOf_digits hd ds
      refine ⟨by simp [StartsNoText, hkey, digitChunk], ?_⟩
      obtain ⟨run, rest, hruns⟩ := exists_runs_cons d ds
      have hapart : runs (c :: d :: ds) = [c] :: runs (d :: ds) := by
        rw [runs, hruns]
        simp [hc, hd]
      rw [keyOf, hapart, List.map_cons, chunkOf_text hc, keyOf]
    · right
      obtain ⟨run, rest, hruns⟩ := exists_runs_cons d ds
      have hjoined : runs (c :: d :: ds) = (c :: d :: run) :: rest := by
        rw [runs, hruns]
        simp [hc, hd]
      refine ⟨d, ds, run, rest.map chunkOf, rfl, hd, ?_, ?_⟩
      · rw [keyOf, hruns, List.map_cons, chunkOf_text hd]
      · rw [keyOf, hjoined, List.map_cons, chunkOf_text hc]

/-! ### Chunks compared -/

theorem then_of_ne_eq {o : Ordering} (h : o ≠ .eq) (o' : Ordering) : o.then o' = o := by
  cases o with
  | eq => exact absurd rfl h
  | lt => rfl
  | gt => rfl

theorem compareChars_self (cs : List Char) : compareChars cs cs = .eq := ReflCmp.compare_self

theorem Key.compare_swap (a b : Key) : (Key.compare a b).swap = Key.compare b a := OrientedCmp.eq_swap.symm

theorem compare_textChunk (cs ds : List Char) : (textChunk cs).compare (textChunk ds) = compareChars cs ds := by
  simp [Chunk.compare, textChunk, compareText, compareChars_self]

theorem compare_digitChunk (ds es : List Char) : (digitChunk ds).compare (digitChunk es) = compareDigits ds es := by
  simp [Chunk.compare, digitChunk, compareText, compareDigits, compareChars_self]

theorem compare_number_text {chunk : Chunk} (hchunk : chunk.text = "0") {d : Char} (hd : 57 < d.toNat) (cs : List Char) :
    chunk.compare (textChunk (d :: cs)) = .lt := by
  have hzero : compareChars ['0'] (d :: cs) = .lt := by
    rw [compareChars, compare_toNat_of_isDigit (by decide) hd]
    rfl
  simp [Chunk.compare, textChunk, compareText, hchunk, hzero]

theorem compare_startsNoText {key : Key} (hkey : StartsNoText key) {d : Char} (hd : 57 < d.toNat) (cs : List Char) (rest : Key) :
    Key.compare key (textChunk (d :: cs) :: rest) = .lt := by
  cases key with
  | nil => rfl
  | cons chunk more =>
    have hchunk : chunk.text = "0" := hkey chunk rfl
    rw [Key.compare, compare_number_text hchunk hd]
    rfl

theorem compare_keyOf_cons_of_ends {c d : Char} {cs run : List Char} {rest : Key} (hc : StartsNoText (keyOf cs))
    (hd : 57 < d.toNat) :
    Key.compare (textChunk [c] :: keyOf cs) (textChunk (c :: d :: run) :: rest)
      = Key.compare (keyOf cs) (textChunk (d :: run) :: rest) := by
  have hends : compareChars [c] (c :: d :: run) = .lt := by simp [compareChars]
  rw [compare_startsNoText hc hd, Key.compare, compare_textChunk, hends]
  rfl

/-- **A character of text that two names share can be left out,** whether the chunks that it starts go on or end. -/
theorem compare_keyOf_cons {c : Char} (hc : ¬ c.isDigit = true) {as bs : List Char} (ha : IsIdentifier as) (hb : IsIdentifier bs) :
    Key.compare (keyOf (c :: as)) (keyOf (c :: bs)) = Key.compare (keyOf as) (keyOf bs) := by
  obtain ⟨hends, hkey⟩ | ⟨d, ds, run, rest, rfl, hd, htail, hkey⟩ := keyOf_text hc as
  · obtain ⟨hends', hkey'⟩ | ⟨d', ds', run', rest', rfl, hd', htail', hkey'⟩ := keyOf_text hc bs
    · rw [hkey, hkey', Key.compare, compare_textChunk, compareChars_self]
      rfl
    · rw [hkey, hkey', htail', compare_keyOf_cons_of_ends hends (nine_lt_of_not_isDigit hb hd')]
  · obtain ⟨hends', hkey'⟩ | ⟨d', ds', run', rest', rfl, hd', htail', hkey'⟩ := keyOf_text hc bs
    · rw [← Key.compare_swap, hkey, hkey', htail, compare_keyOf_cons_of_ends hends' (nine_lt_of_not_isDigit ha hd),
        Key.compare_swap]
    · rw [hkey, hkey', htail, htail', Key.compare, Key.compare, compare_textChunk, compare_textChunk]
      simp [compareChars]

theorem compare_keyOf_of_ne {c d : Char} (hc : ¬ c.isDigit = true) (hd : ¬ d.isDigit = true) (hne : compare c.toNat d.toNat ≠ .eq)
    (as bs : List Char) : Key.compare (keyOf (c :: as)) (keyOf (d :: bs)) = compare c.toNat d.toNat := by
  obtain ⟨run, rest, hruns⟩ := exists_runs_cons c as
  obtain ⟨run', rest', hruns'⟩ := exists_runs_cons d bs
  rw [keyOf, keyOf, hruns, hruns', List.map_cons, List.map_cons, chunkOf_text hc, chunkOf_text hd, Key.compare,
    compare_textChunk, compareChars, then_of_ne_eq hne, then_of_ne_eq hne]

theorem compare_keyOf_digit_text {c d : Char} (hc : c.isDigit = true) {bs : List Char} (hb : IsIdentifier (d :: bs))
    (hd : ¬ d.isDigit = true) (as : List Char) : Key.compare (keyOf (c :: as)) (keyOf (d :: bs)) = .lt := by
  obtain ⟨run, rest, hruns⟩ := exists_runs_cons d bs
  have hkey : keyOf (d :: bs) = textChunk (d :: run) :: rest.map chunkOf := by
    rw [keyOf, hruns, List.map_cons, chunkOf_text hd]
  have hstarts : StartsNoText (keyOf (c :: as)) := by simp [StartsNoText, keyOf_digits hc, digitChunk]
  rw [hkey, compare_startsNoText hstarts (nine_lt_of_not_isDigit hb hd)]

/-! ### The walk -/

theorem compare_keyOf_eq_walk {as bs : List Char} (ha : IsIdentifier as) (hb : IsIdentifier bs) :
    Key.compare (keyOf as) (keyOf bs) = walk as bs := by
  fun_induction walk as bs with
  | case1 => rfl
  | case2 d ds =>
    obtain ⟨run, rest, hruns⟩ := exists_runs_cons d ds
    rw [keyOf, keyOf, hruns]
    rfl
  | case3 c cs =>
    obtain ⟨run, rest, hruns⟩ := exists_runs_cons c cs
    rw [keyOf, keyOf, hruns]
    rfl
  | case4 c cs d ds hdigits ih =>
    rw [keyOf_digits hdigits.1, keyOf_digits hdigits.2, Key.compare, compare_digitChunk,
      ih ha.of_cons.afterDigits hb.of_cons.afterDigits]
  | case5 c cs d ds hdigits ih =>
    by_cases hc : c.isDigit = true
    · have hd : ¬ d.isDigit = true := fun hd => hdigits ⟨hc, hd⟩
      rw [compare_keyOf_digit_text hc hb hd, compare_toNat_of_isDigit hc (nine_lt_of_not_isDigit hb hd)]
      rfl
    · by_cases hd : d.isDigit = true
      · rw [← Key.compare_swap, compare_keyOf_digit_text hd ha hc, ← Nat.compare_swap,
          compare_toNat_of_isDigit hd (nine_lt_of_not_isDigit ha hc)]
        rfl
      · by_cases heq : compare c.toNat d.toNat = .eq
        · obtain rfl : c = d := Char.toNat_inj.mp (Nat.compare_eq_eq.mp heq)
          rw [compare_keyOf_cons hc ha.of_cons hb.of_cons, ih ha.of_cons hb.of_cons, heq]
          rfl
        · rw [compare_keyOf_of_ne hc hd heq, then_of_ne_eq heq]

/-- Where one of the names has no digit, no numbers meet. -/
theorem walk_eq_compareChars {as bs : List Char} (ha : ∀ c ∈ as, ¬ c.isDigit = true) : walk as bs = compareChars as bs := by
  induction as generalizing bs with
  | nil => cases bs <;> simp [walk, compareChars]
  | cons c cs ih =>
    rw [List.forall_mem_cons] at ha
    cases bs with
    | nil => simp [walk, compareChars]
    | cons d ds => rw [walk, if_neg fun h => ha.1 h.1, compareChars, ih ha.2]

/-- **Identifiers stand in the order in which a walk over both puts them.** No two are equal, so case counts; where one of them has no digit from `0` to `9`, the order is that of the characters. -/
theorem compare_eq_walk {a b : String} (ha : IsIdentifier a.toList) (hb : IsIdentifier b.toList) (hshort : ¬ HasLongDigits a)
    (hshort' : ¬ HasLongDigits b) :
    ∃ k k', naturalKey a = .ok k ∧ naturalKey b = .ok k' ∧ Key.compare k k' = walk a.toList b.toList
      ∧ (Key.compare k k' = .eq ↔ a = b) ∧ ((∀ c ∈ a.toList, '9' < c) → Key.compare k k' = compareText a b) := by
  obtain ⟨k, hk⟩ := exists_naturalKey_eq_ok_iff.mpr hshort
  obtain ⟨k', hk'⟩ := exists_naturalKey_eq_ok_iff.mpr hshort'
  have hwalk : Key.compare k k' = walk a.toList b.toList := by
    rw [eq_keyOf hk, eq_keyOf hk']
    exact compare_keyOf_eq_walk ha hb
  refine ⟨k, k', hk, hk', hwalk, ⟨fun heq => ?_, ?_⟩, fun hfree => ?_⟩
  · obtain rfl : k = k' := LawfulEqCmp.eq_of_compare heq
    exact naturalKey_injective hk hk'
  · rintro rfl
    obtain rfl := Except.ok.inj (hk.symm.trans hk')
    exact ReflCmp.compare_self
  · rw [hwalk, compareText]
    refine walk_eq_compareChars fun c hc hdigit => ?_
    have hupper := nine_lt_iff.mp (hfree c hc)
    have hlower := toNat_le_of_isDigit hdigit
    omega

theorem compare_paddedNames :
    (IsIdentifier "run٣a007".toList ∧ IsIdentifier "run٣a07z".toList ∧ ¬ HasLongDigits "run٣a007" ∧ ¬ HasLongDigits "run٣a07z")
      ∧ Precedes "run٣a007" "run٣a07z" ∧ walk "run٣a007".toList "run٣a07z".toList = .lt := by
  have ha : IsIdentifier "run٣a007".toList := by decide
  have hb : IsIdentifier "run٣a07z".toList := by decide
  have hshort : ¬ HasLongDigits "run٣a007" := not_hasLongDigits_of_length (by decide)
  have hshort' : ¬ HasLongDigits "run٣a07z" := not_hasLongDigits_of_length (by decide)
  have hkey : naturalKey "run٣a007" = .ok [⟨"run٣a", 0, ""⟩, ⟨"0", 7, "007"⟩] := by decide +kernel
  have hkey' : naturalKey "run٣a07z" = .ok [⟨"run٣a", 0, ""⟩, ⟨"0", 7, "07"⟩, ⟨"z", 0, ""⟩] := by decide +kernel
  obtain ⟨k, k', hk, hk', hwalk, -, -⟩ := compare_eq_walk ha hb hshort hshort'
  obtain rfl := Except.ok.inj (hkey.symm.trans hk)
  obtain rfl := Except.ok.inj (hkey'.symm.trans hk')
  exact ⟨⟨ha, hb, hshort, hshort'⟩, ⟨_, _, hk, hk', rfl⟩, hwalk.symm⟩

end ApiDoc.NaturalOrder
