import Mathlib.Data.List.Infix
import Mathlib.Data.List.TakeWhile
import ApiDoc.Proofs.Json.RoundTrip
import ApiDoc.Proofs.Traversal

/-!
# Half a pair in a text

A character that stands for itself is never half a pair, so reading stops at half a pair on its own only in a text with an escape that spells one (`spellsHalf_of_parse`): its four digits start with a d.

What is left of a text, wherever reading has come to, is the end of it (`Within`). An escape that is found there stands in the text itself.
-/

namespace ApiDoc

namespace Json

/-- An escape for half a pair starts somewhere in the text. -/
def SpellsHalf (s : List Char) : Prop := ['\\', 'u', 'd'] <:+: s ∨ ['\\', 'u', 'D'] <:+: s

theorem SpellsHalf.of_suffix {s s' : List Char} (hs : s' <:+ s) (h : SpellsHalf s') : SpellsHalf s :=
  h.imp (·.trans hs.isInfix) (·.trans hs.isInfix)

/-- What reading a text can end with. What is left is the end of the text, and half a pair is spelled in it where it stops reading. -/
inductive Within {α : Type} (s : List Char) : Except Stop (α × List Char) → Prop
  | ok {a : α} {rest : List Char} (h : rest <:+ s) : Within s (.ok (a, rest))
  | half (left : Nat) (h : SpellsHalf s) : Within s (.error (.malformed .loneHalf left))
  | malformed {cause : Cause} (left : Nat) (h : cause ≠ .loneHalf) : Within s (.error (.malformed cause left))
  | digits (e : Number.TooManyDigits) : Within s (.error (.digits e))

namespace Within

variable {α β : Type} {s s' : List Char}

theorem of_suffix {r : Except Stop (α × List Char)} (hs : s' <:+ s) (h : Within s' r) : Within s r := by
  cases h with
  | ok h => exact .ok (h.trans hs)
  | half left h => exact .half left (h.of_suffix hs)
  | malformed left h => exact .malformed left h
  | digits e => exact .digits e

theorem bind {r : Except Stop (α × List Char)} {k : α × List Char → Except Stop (β × List Char)} (h : Within s r)
    (hk : ∀ a rest, r = .ok (a, rest) → rest <:+ s → Within s (k (a, rest))) : Within s (r >>= k) := by
  cases h with
  | ok h => exact hk _ _ rfl h
  | half left h => exact .half left h
  | malformed left h => exact .malformed left h
  | digits e => exact .digits e

theorem spellsHalf {left : Nat} (h : Within (α := α) s (.error (.malformed .loneHalf left))) : SpellsHalf s := by
  cases h with
  | half _ h => exact h
  | malformed _ h => exact absurd rfl h

end Within

/-! ### Strings -/

theorem of_hexValue? {c : Char} {n : Nat} (h : hexValue? c = some n) : n < 16 ∧ (n = 13 → c = 'd' ∨ c = 'D') := by
  have hlow : c.toNat = 100 → c = 'd' := fun hc => Char.toNat_inj.mp hc
  have hup : c.toNat = 68 → c = 'D' := fun hc => Char.toNat_inj.mp hc
  rw [hexValue?] at h
  simp only [Bool.and_eq_true, decide_eq_true_eq, Char.le_def, UInt32.le_iff_toNat_le] at h
  split_ifs at h with hdigit hlower hupper
  · have hle : c.toNat ≤ 57 := hdigit.2
    have hn := Option.some.inj h
    omega
  · have hle : c.toNat ≤ 102 := hlower.2
    have hn := Option.some.inj h
    exact ⟨by omega, fun _ => .inl (hlow (by omega))⟩
  · have hle : c.toNat ≤ 70 := hupper.2
    have hn := Option.some.inj h
    exact ⟨by omega, fun _ => .inr (hup (by omega))⟩

/-- The digits of half a pair start with a d. -/
theorem eq_of_unit? {a b c d : Char} {n : Nat} (h : unit? a b c d = some n) (hn : char? n = none) : a = 'd' ∨ a = 'D' := by
  simp only [unit?, Option.bind_eq_bind, Option.bind_eq_some_iff, Option.pure_def, Option.some.injEq] at h
  obtain ⟨x, hx, y, hy, z, hz, w, hw, rfl⟩ := h
  have hy := (of_hexValue? hy).1
  have hz := (of_hexValue? hz).1
  have hw := (of_hexValue? hw).1
  rw [char?] at hn
  simp only [isHighHalf, isLowHalf, Bool.or_eq_true, Bool.and_eq_true, decide_eq_true_eq, ite_eq_left_iff, reduceCtorEq,
    imp_false, not_not] at hn
  obtain rfl : x = 13 := by omega
  exact (of_hexValue? hx).2 rfl

theorem consUnit_eq_bind (n : Nat) (r : Except Stop (List Nat × List Char)) :
    consUnit n r = r >>= fun found => .ok (n :: found.1, found.2) := by
  cases r <;> rfl

theorem within_consUnit {s s' : List Char} {r : Except Stop (List Nat × List Char)} (n : Nat) (hs : s' <:+ s)
    (h : Within s' r) : Within s (consUnit n r) := by
  rw [consUnit_eq_bind]
  exact (h.of_suffix hs).bind fun _ _ _ hrest => .ok hrest

theorem within_units (opened : Nat) (s : List Char) : Within s (units opened s) := by
  fun_induction units opened s with
  | case1 => exact .malformed _ (by decide)
  | case2 rest => exact .ok (List.suffix_cons _ _)
  | case3 => exact .malformed _ (by decide)
  | case4 a b c d e rest n hunit ih => exact within_consUnit n (List.suffix_append ['\\', 'u', a, b, c, d] _) ih
  | case5 => exact .malformed _ (by decide)
  | case6 => exact .malformed _ (by decide)
  | case7 c rest hc d hd ih => exact within_consUnit _ (List.suffix_append ['\\', c] _) ih
  | case8 => exact .malformed _ (by decide)
  | case9 => exact .malformed _ (by decide)
  | case10 c rest _ _ _ _ _ ih => exact within_consUnit _ (List.suffix_cons _ _) ih

theorem exists_of_consUnit_eq_ok {n : Nat} {r : Except Stop (List Nat × List Char)} {found : List Nat} {rest : List Char}
    (h : consUnit n r = .ok (found, rest)) : ∃ later, r = .ok (later, rest) ∧ found = n :: later := by
  rw [consUnit_eq_bind] at h
  obtain ⟨⟨later, rest'⟩, hr, h⟩ := bind_eq_ok_iff.mp h
  obtain ⟨rfl, rfl⟩ := Prod.mk.inj (Except.ok.inj h)
  exact ⟨later, hr, rfl⟩

theorem spellsHalf_of_units {opened : Nat} {s rest : List Char} {found : List Nat} (h : units opened s = .ok (found, rest))
    {n : Nat} (hmem : n ∈ found) (hn : char? n = none) : SpellsHalf s := by
  fun_induction units opened s generalizing found with
  | case1 => cases h
  | case2 =>
    obtain ⟨rfl, -⟩ := Prod.mk.inj (Except.ok.inj h)
    simp at hmem
  | case3 => cases h
  | case4 a b c d e after m hunit ih =>
    obtain ⟨later, hlater, rfl⟩ := exists_of_consUnit_eq_ok h
    rcases List.mem_cons.mp hmem with rfl | hmem
    -- the unit of this escape is the half itself, or a later one is
    · have hstart : ['\\', 'u', a] <:+: '\\' :: 'u' :: a :: b :: c :: d :: e :: after :=
        (List.prefix_append ['\\', 'u', a] (b :: c :: d :: e :: after)).isInfix
      rcases eq_of_unit? hunit hn with rfl | rfl
      · exact .inl hstart
      · exact .inr hstart
    · exact (ih hlater hmem).of_suffix (List.suffix_append ['\\', 'u', a, b, c, d] _)
  | case5 => cases h
  | case6 => cases h
  | case7 c after _ d hd ih =>
    obtain ⟨later, hlater, rfl⟩ := exists_of_consUnit_eq_ok h
    rcases List.mem_cons.mp hmem with rfl | hmem
    · simp [(char?_toNat d).2] at hn
    · exact (ih hlater hmem).of_suffix (List.suffix_append ['\\', c] _)
  | case8 => cases h
  | case9 => cases h
  | case10 c after _ _ _ _ _ ih =>
    obtain ⟨later, hlater, rfl⟩ := exists_of_consUnit_eq_ok h
    rcases List.mem_cons.mp hmem with rfl | hmem
    · simp [(char?_toNat c).2] at hn
    · exact (ih hlater hmem).of_suffix (List.suffix_cons _ _)

theorem exists_of_joinUnits?_eq_none {found : List Nat} (h : joinUnits? found = none) : ∃ n ∈ found, char? n = none := by
  fun_induction joinUnits? found with
  | case1 => cases h
  | case2 n =>
    cases hn : char? n with
    | none => exact ⟨n, List.mem_singleton_self n, hn⟩
    | some c => simp [hn] at h
  | case3 first second later hpair ih =>
    cases hlater : joinUnits? later with
    | none =>
      obtain ⟨n, hmem, hn⟩ := ih hlater
      exact ⟨n, by simp [hmem], hn⟩
    | some text => simp [hlater] at h
  | case4 first second later hpair ih =>
    cases hfirst : char? first with
    | none => exact ⟨first, List.mem_cons_self, hfirst⟩
    | some c =>
      cases hlater : joinUnits? (second :: later) with
      | none =>
        obtain ⟨n, hmem, hn⟩ := ih hlater
        exact ⟨n, List.mem_cons_of_mem _ hmem, hn⟩
      | some text => simp [hfirst, hlater] at h

example : (joinUnits? [0xD83D, 0xDE00], joinUnits? [0xDE00, 0xD83D]) = (some ['😀'], none) := by decide

theorem within_readString (s : List Char) : Within s (readString s) := by
  rw [readString]
  refine (within_units (s.length + 1) s).bind fun found rest hunits hrest => ?_
  dsimp only
  cases hjoin : joinUnits? found with
  | none =>
    obtain ⟨n, hmem, hn⟩ := exists_of_joinUnits?_eq_none hjoin
    exact .half _ (spellsHalf_of_units hunits hmem hn)
  | some text => exact .ok hrest

/-! ### Numbers and words -/

theorem spanDigits_suffix (s : List Char) : (spanDigits s).2 <:+ s := by
  rw [spanDigits, List.span_eq_takeWhile_dropWhile]
  exact List.dropWhile_suffix _

theorem wholeDigits_suffix (s : List Char) : (wholeDigits s).2 <:+ s := by
  rw [wholeDigits.eq_def]
  split
  · exact List.suffix_cons _ _
  · exact spanDigits_suffix s

theorem fraction?_suffix {s : List Char} {found : List Char × List Char} (h : fraction? s = some found) : found.2 <:+ s := by
  rw [fraction?.eq_def] at h
  split at h
  · rename_i rest
    have hrest := spanDigits_suffix rest
    split at h
    · cases h
    · obtain rfl := Option.some.inj h
      exact hrest.trans (List.suffix_cons _ _)
  · cases h

theorem exponentDigits?_suffix {negative : Bool} {s : List Char} {found : Int × List Char}
    (h : exponentDigits? negative s = some found) : found.2 <:+ s := by
  have hrest := spanDigits_suffix s
  rw [exponentDigits?] at h
  split at h
  · cases h
  · rename_i digits rest _ hspan
    rw [hspan] at hrest
    obtain rfl := Option.some.inj h
    exact hrest

theorem exponent?_suffix {s : List Char} {found : Int × List Char} (h : exponent? s = some found) : found.2 <:+ s := by
  rw [exponent?.eq_def] at h
  split at h
  · rename_i c rest
    split at h
    · split at h
      · exact (exponentDigits?_suffix h).trans (List.suffix_append [c, '-'] _)
      · exact (exponentDigits?_suffix h).trans (List.suffix_append [c, '+'] _)
      · exact (exponentDigits?_suffix h).trans (List.suffix_cons _ _)
    · cases h
  · cases h

theorem suffix_of_getD {α : Type} {found : Option (α × List Char)} {default : α} {s : List Char}
    (h : ∀ r, found = some r → r.2 <:+ s) : (found.getD (default, s)).2 <:+ s := by
  cases found with
  | none => exact List.suffix_refl s
  | some r => exact h r rfl

theorem within_unsigned (left : Nat) (negative : Bool) (s : List Char) : Within s (unsigned left negative s) := by
  have hwhole := wholeDigits_suffix s
  rw [unsigned]
  split
  · exact .malformed _ (by decide)
  · rename_i whole rest _ heq
    rw [heq] at hwhole
    have hfraction := @suffix_of_getD _ (fraction? rest) [] rest fun _ => fraction?_suffix
    have hexponent := @suffix_of_getD _ (exponent? ((fraction? rest).getD ([], rest)).2) 0 _ fun _ => exponent?_suffix
    dsimp only
    split
    · split
      · exact .digits _
      · exact .ok (hexponent.trans (hfraction.trans hwhole))
    · exact .ok (hexponent.trans (hfraction.trans hwhole))

theorem within_atom (s : List Char) : Within s (atom s) := by
  rw [atom]
  split
  · rename_i found hword
    obtain ⟨⟨w, v⟩, -, hfound⟩ := List.exists_of_findSome?_eq_some hword
    dsimp only at hfound
    split at hfound
    · obtain rfl := Option.some.inj hfound
      exact .ok (List.drop_suffix _ _)
    · cases hfound
  · rw [number.eq_def]
    split
    · exact (within_unsigned _ _ _).of_suffix (List.suffix_cons _ _)
    · exact within_unsigned _ _ _

/-! ### Values -/

theorem skipSpace_suffix (s : List Char) : skipSpace s <:+ s := List.dropWhile_suffix _

theorem suffix_of_skipSpace {s rest : List Char} {c : Char} (h : skipSpace s = c :: rest) : rest <:+ s :=
  (List.suffix_cons c rest).trans (h ▸ skipSpace_suffix s)

/-- What is read within some steps, as a value or as the rest of an array or an object. -/
structure ReadsWithin (fuel : Nat) : Prop where
  value : ∀ s, Within s (value fuel s)
  items : ∀ before s, Within s (items fuel before s)
  members : ∀ before s, Within s (members fuel before s)

section

variable {fuel : Nat} (ih : ReadsWithin fuel)
include ih

theorem ReadsWithin.value_succ (s : List Char) : Within s (Json.value (fuel + 1) s) := by
  rw [Json.value.eq_def]
  dsimp only
  split
  · refine ((within_readString _).bind fun text rest _ hrest => ?_).of_suffix (List.suffix_cons _ _)
    exact .ok hrest
  · rename_i rest
    split
    · rename_i hclosed
      exact .ok ((suffix_of_skipSpace hclosed).trans (List.suffix_cons _ _))
    · exact (ih.members _ _).of_suffix ((skipSpace_suffix rest).trans (List.suffix_cons _ _))
  · rename_i rest
    split
    · rename_i hclosed
      exact .ok ((suffix_of_skipSpace hclosed).trans (List.suffix_cons _ _))
    · exact (ih.items _ _).of_suffix ((skipSpace_suffix rest).trans (List.suffix_cons _ _))
  · exact within_atom _

theorem ReadsWithin.items_succ (before : List Json) (s : List Char) : Within s (Json.items (fuel + 1) before s) := by
  rw [Json.items]
  refine (ih.value s).bind fun item rest _ hrest => .of_suffix hrest ?_
  dsimp only
  split
  · rename_i hclosed
    exact .ok (suffix_of_skipSpace hclosed)
  · rename_i after hcomma
    exact (ih.items _ _).of_suffix ((skipSpace_suffix after).trans (suffix_of_skipSpace hcomma))
  · exact .malformed _ (by decide)

theorem ReadsWithin.members_succ (before : Keyed Json) (s : List Char) : Within s (Json.members (fuel + 1) before s) := by
  rw [Json.members.eq_def]
  dsimp only
  split
  · refine ((within_readString _).bind fun name rest _ hrest => .of_suffix hrest ?_).of_suffix (List.suffix_cons _ _)
    dsimp only
    split
    · rename_i after hcolon
      refine ((ih.value _).bind fun item rest _ hrest => .of_suffix hrest ?_).of_suffix
        ((skipSpace_suffix after).trans (suffix_of_skipSpace hcolon))
      dsimp only
      split
      · rename_i hclosed
        exact .ok (suffix_of_skipSpace hclosed)
      · rename_i later hcomma
        exact (ih.members _ _).of_suffix ((skipSpace_suffix later).trans (suffix_of_skipSpace hcomma))
      · exact .malformed _ (by decide)
    · exact .malformed _ (by decide)
  · exact .malformed _ (by decide)

end

theorem readsWithin (fuel : Nat) : ReadsWithin fuel := by
  induction fuel with
  | zero =>
    refine ⟨fun s => ?_, fun _ s => ?_, fun _ s => ?_⟩
    · rw [value]
      exact .malformed _ (by decide)
    · rw [items]
      exact .malformed _ (by decide)
    · rw [members]
      exact .malformed _ (by decide)
  | succ fuel ih => exact ⟨ih.value_succ, ih.items_succ, ih.members_succ⟩

theorem exists_document_of_parse {text : List Char} {cause : Cause} {spot : Spot}
    (h : parse text = .error (.malformed cause spot)) : ∃ left, document text = .error (.malformed cause left) := by
  rw [parse] at h
  split at h
  · cases h
  · rename_i e he
    cases e with
    | malformed cause' left =>
      obtain ⟨rfl, -⟩ := ReadError.malformed.inj (Except.error.inj h)
      exact ⟨left, he⟩
    | digits e => cases h

/-- **Half a pair that reading stops at is spelled in the text.** -/
theorem spellsHalf_of_parse {text : List Char} {spot : Spot} (h : parse text = .error (.malformed .loneHalf spot)) :
    SpellsHalf text := by
  obtain ⟨left, hdocument⟩ := exists_document_of_parse h
  rw [document.eq_def] at hdocument
  split at hdocument
  · cases hdocument
  · have hread := (readsWithin (2 * text.length + 2)).value (skipSpace text)
    cases hvalue : value (2 * text.length + 2) (skipSpace text) with
    | error e =>
      rw [hvalue] at hdocument hread
      obtain rfl := Except.error.inj hdocument
      exact hread.spellsHalf.of_suffix (skipSpace_suffix text)
    | ok r =>
      simp only [hvalue, bind, Except.bind] at hdocument
      split at hdocument <;> cases hdocument

end Json

end ApiDoc
