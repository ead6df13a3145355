import Mathlib.Data.Nat.Basic
import ApiDoc.Text.Utf8

/-!
# Texts come back from their bytes

The bytes of a character are decoded to it, whether they are one, two, three or four (`exists_decodeFrom_utf8EncodeChar`). So a text comes back from its bytes, as long as it holds no carriage return (`decode_toUTF8`).
-/

namespace ApiDoc.Text

/-! ### Bytes of a character -/

section

variable {a b c d : Nat} (position : Nat) (rest : List Nat)

theorem decodeFrom_one (ha : a < 0x80) : decodeFrom position (a :: rest) = consChar a (decodeFrom (position + 1) rest) := by
  rw [decodeFrom.eq_def]
  simp only [ha, ↓reduceIte]

theorem decodeFrom_two (ha : 0xC2 ≤ a ∧ a < 0xE0) (hb : isContinuation b = true) :
    decodeFrom position (a :: b :: rest) = consChar ((a - 0xC0) * 64 + (b - 0x80)) (decodeFrom (position + 2) rest) := by
  rw [decodeFrom.eq_def]
  simp only [show ¬ a < 0x80 by omega, show ¬ a < 0xC2 by omega, ha.2, hb, ↓reduceIte]

theorem decodeFrom_three (ha : 0xE0 ≤ a ∧ a < 0xF0) (hb : fitsThree a b = true) (hc : isContinuation c = true) :
    decodeFrom position (a :: b :: c :: rest) =
      consChar (((a - 0xE0) * 64 + (b - 0x80)) * 64 + (c - 0x80)) (decodeFrom (position + 3) rest) := by
  rw [decodeFrom.eq_def]
  simp only [show ¬ a < 0x80 by omega, show ¬ a < 0xC2 by omega, show ¬ a < 0xE0 by omega, ha.2, hb, hc, ↓reduceIte,
    Bool.not_true, Bool.false_eq_true]

theorem decodeFrom_four (ha : 0xF0 ≤ a ∧ a < 0xF5) (hb : fitsFour a b = true) (hc : isContinuation c = true)
    (hd : isContinuation d = true) :
    decodeFrom position (a :: b :: c :: d :: rest) =
      consChar ((((a - 0xF0) * 64 + (b - 0x80)) * 64 + (c - 0x80)) * 64 + (d - 0x80)) (decodeFrom (position + 4) rest) := by
  rw [decodeFrom.eq_def]
  simp only [show ¬ a < 0x80 by omega, show ¬ a < 0xC2 by omega, show ¬ a < 0xE0 by omega, show ¬ a < 0xF0 by omega, ha.2, hb,
    hc, hd, ↓reduceIte, Bool.not_true, Bool.false_eq_true]

end

theorem isContinuation_mod (n : Nat) : isContinuation (n % 64 + 128) = true := by
  simp only [isContinuation, Bool.and_eq_true, decide_eq_true_eq]
  omega

theorem map_toNat_utf8EncodeChar (c : Char) : (String.utf8EncodeChar c).map UInt8.toNat =
    if c.toNat ≤ 0x7F then [c.toNat]
    else if c.toNat ≤ 0x7FF then [c.toNat / 64 % 32 + 0xC0, c.toNat % 64 + 0x80]
    else if c.toNat ≤ 0xFFFF then [c.toNat / 4096 % 16 + 0xE0, c.toNat / 64 % 64 + 0x80, c.toNat % 64 + 0x80]
    else [c.toNat / 262144 % 8 + 0xF0, c.toNat / 4096 % 64 + 0x80, c.toNat / 64 % 64 + 0x80, c.toNat % 64 + 0x80] := by
  have hc : c.val.toNat = c.toNat := rfl
  simp only [String.utf8EncodeChar, hc]
  split
  · rw [List.map_singleton, UInt8.toNat_ofNat_of_lt' (by show c.toNat < 256; omega)]
  split
  · simp only [List.map_cons, List.map_nil, UInt8.toNat_ofNat', List.cons.injEq, and_true]
    omega
  split
  · simp only [List.map_cons, List.map_nil, UInt8.toNat_ofNat', List.cons.injEq, and_true]
    omega
  · simp only [List.map_cons, List.map_nil, UInt8.toNat_ofNat', List.cons.injEq, and_true]
    omega

theorem exists_decodeFrom_utf8EncodeChar (c : Char) (position : Nat) (rest : List Nat) :
    ∃ position', decodeFrom position ((String.utf8EncodeChar c).map UInt8.toNat ++ rest) =
      consChar c.toNat (decodeFrom position' rest) := by
  have hvalid : c.toNat < 0xD800 ∨ 0xDFFF < c.toNat ∧ c.toNat < 0x110000 := c.valid
  rw [map_toNat_utf8EncodeChar]
  generalize c.toNat = n at hvalid ⊢
  split
  · exact ⟨position + 1, decodeFrom_one position rest (by omega)⟩
  split
  · have hn : (n / 64 % 32 + 0xC0 - 0xC0) * 64 + (n % 64 + 0x80 - 0x80) = n := by omega
    refine ⟨position + 2, ?_⟩
    rw [List.cons_append, List.cons_append, decodeFrom_two _ _ (by omega) (isContinuation_mod n), hn]
    rfl
  split
  · have hn : ((n / 4096 % 16 + 0xE0 - 0xE0) * 64 + (n / 64 % 64 + 0x80 - 0x80)) * 64 + (n % 64 + 0x80 - 0x80) = n := by
      omega
    have hfits : fitsThree (n / 4096 % 16 + 0xE0) (n / 64 % 64 + 0x80) = true := by
      simp only [fitsThree, isContinuation_mod, Bool.true_and, Bool.and_eq_true, Bool.not_eq_true', Bool.and_eq_false_iff,
        beq_eq_false_iff_ne, decide_eq_false_iff_not]
      omega
    refine ⟨position + 3, ?_⟩
    rw [List.cons_append, List.cons_append, List.cons_append, decodeFrom_three _ _ (by omega) hfits (isContinuation_mod n), hn]
    rfl
  · have hn : (((n / 262144 % 8 + 0xF0 - 0xF0) * 64 + (n / 4096 % 64 + 0x80 - 0x80)) * 64 + (n / 64 % 64 + 0x80 - 0x80)) * 64
        + (n % 64 + 0x80 - 0x80) = n := by
      omega
    have hfits : fitsFour (n / 262144 % 8 + 0xF0) (n / 4096 % 64 + 0x80) = true := by
      simp only [fitsFour, isContinuation_mod, Bool.true_and, Bool.and_eq_true, Bool.not_eq_true', Bool.and_eq_false_iff,
        beq_eq_false_iff_ne, decide_eq_false_iff_not]
      omega
    refine ⟨position + 4, ?_⟩
    rw [List.cons_append, List.cons_append, List.cons_append, List.cons_append,
      decodeFrom_four _ _ (by omega) hfits (isContinuation_mod _) (isContinuation_mod n), hn]
    rfl

/-! ### Texts -/

theorem decodeFrom_flatMap (text : List Char) (position : Nat) :
    decodeFrom position ((text.flatMap String.utf8EncodeChar).map UInt8.toNat) = .ok text := by
  induction text generalizing position with
  | nil => rfl
  | cons c text ih =>
    obtain ⟨position', hchar⟩ := exists_decodeFrom_utf8EncodeChar c position ((text.flatMap String.utf8EncodeChar).map UInt8.toNat)
    rw [List.flatMap_cons, List.map_append, hchar, ih, consChar, Char.ofNat_toNat]
    rfl

theorem unifyBreaks_of_notMem {text : List Char} (h : '\r' ∉ text) : unifyBreaks text = text := by
  induction text with
  | nil => rfl
  | cons c text ih =>
    rw [List.mem_cons, not_or] at h
    rw [unifyBreaks.eq_def]
    split
    · contradiction
    · simp_all
    · simp_all
    · rename_i heq
      obtain ⟨rfl, rfl⟩ := List.cons.inj heq
      rw [ih h.2]

theorem toList_loop_eq (b : ByteArray) (i : Nat) (r : List UInt8) :
    ByteArray.toList.loop b i r = r.reverse ++ b.data.toList.drop i := by
  fun_induction ByteArray.toList.loop b i r with
  | case1 i r hlt ih =>
    have hi : i < b.data.toList.length := by simpa using hlt
    have hget : b.get! i = b.data.toList[i] := getElem!_pos b.data i (by simpa using hlt)
    rw [ih, List.drop_eq_getElem_cons hi, hget, List.reverse_cons, List.append_assoc]
    rfl
  | case2 i r hge =>
    have hi : b.data.toList.length ≤ i := by simpa using hge
    rw [List.drop_eq_nil_of_le hi, List.append_nil]

theorem toList_toUTF8 (s : String) : s.toUTF8.toList = s.toList.flatMap String.utf8EncodeChar := by
  rw [String.toUTF8_eq_toByteArray, ← String.utf8Encode_toList, ByteArray.toList, toList_loop_eq]
  exact List.toList_data_toByteArray

/-- **A text without carriage returns comes back from its bytes.** -/
theorem decode_toUTF8 {s : String} (h : '\r' ∉ s.toList) : decode s.toUTF8.toList = .ok s.toList := by
  rw [decode, toList_toUTF8, decodeFrom_flatMap]
  exact congrArg Except.ok (unifyBreaks_of_notMem h)

end ApiDoc.Text
