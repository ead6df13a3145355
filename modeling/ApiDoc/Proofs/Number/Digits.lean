import Mathlib.Algebra.Group.Nat.Defs
import Mathlib.Data.List.Basic
import ApiDoc.Number.DigitLimit

/-!
# Whole numbers and their digits

A whole number is short if it has no more digits than are read. Short numbers come back from their digits (`readDigits_toDigits`), and a number that was read from digits is short, however many zeros stood in front (`isShort_of_readDigits`).
-/

namespace ApiDoc.Number

/-- A whole number with no more digits than are read. -/
def IsShort (n : Int) : Prop := (Nat.toDigits 10 n.natAbs).length ≤ digitLimit

instance (n : Int) : Decidable (IsShort n) := inferInstanceAs (Decidable (_ ≤ _))

theorem isShort_neg {n : Int} : IsShort (-n) ↔ IsShort n := by rw [IsShort, IsShort, Int.natAbs_neg]

/-! ### From a number to its digits and back -/

theorem ofDigits_toDigits (n : Nat) : ofDigits (Nat.toDigits 10 n) = n := by
  have hdigits := @Nat.ofDigitChars_ten_toDigits n
  rwa [Nat.ofDigitChars_eq_foldl] at hdigits

theorem readDigits_toDigits {n : Int} (h : IsShort n) : readDigits (Nat.toDigits 10 n.natAbs) = .ok n.natAbs := by
  rw [readDigits, if_neg (Nat.not_lt.mpr h), ofDigits_toDigits]

theorem exists_toDigits_eq_cons (n : Nat) : ∃ c digits, Nat.toDigits 10 n = c :: digits ∧ c.isDigit = true := by
  obtain ⟨c, digits, hdigits⟩ := List.exists_cons_of_ne_nil (@Nat.toDigits_ne_nil n 10)
  exact ⟨c, digits, hdigits, Nat.isDigit_of_mem_toDigits (by decide) (by decide) (hdigits ▸ List.mem_cons_self)⟩

theorem head?_toDigits {n : Nat} (hn : 0 < n) : (Nat.toDigits 10 n).head? ≠ some '0' := by
  induction n using Nat.strongRecOn with
  | ind n ih =>
    rw [Nat.toDigits_eq_if (by decide)]
    split
    · simp only [List.head?_cons, ne_eq, Option.some.injEq, Nat.digitChar_eq_zero]
      omega
    · rw [List.head?_append_of_ne_nil _ Nat.toDigits_ne_nil]
      exact ih (n / 10) (by omega) (by omega)

/-! ### From digits to a number -/

theorem digitValue_le {c : Char} (h : c.isDigit = true) : digitValue c ≤ 9 := by
  have hc : c.toNat ≤ 57 := (Char.isDigit_iff_toNat.mp h).2
  exact Nat.sub_le_of_le_add hc

theorem foldl_digits_lt {digits : List Char} (h : ∀ c ∈ digits, c.isDigit = true) (start : Nat) :
    digits.foldl (fun n c => 10 * n + digitValue c) start < (start + 1) * 10 ^ digits.length := by
  induction digits generalizing start with
  | nil => simp
  | cons c digits ih =>
    rw [List.forall_mem_cons] at h
    have hc := digitValue_le h.1
    calc digits.foldl (fun n c => 10 * n + digitValue c) (10 * start + digitValue c)
        < (10 * start + digitValue c + 1) * 10 ^ digits.length := ih h.2 _
      _ ≤ ((start + 1) * 10) * 10 ^ digits.length := Nat.mul_le_mul_right _ (by omega)
      _ = (start + 1) * 10 ^ (digits.length + 1) := by rw [Nat.mul_assoc, Nat.pow_succ, Nat.mul_comm 10]

theorem isShort_of_readDigits {digits : List Char} (hdigits : ∀ c ∈ digits, c.isDigit = true) {n : Nat}
    (h : readDigits digits = .ok n) : IsShort n := by
  rw [readDigits] at h
  split at h
  · cases h
  · rename_i hlength
    obtain rfl := Except.ok.inj h
    have hlt : ofDigits digits < 10 ^ digitLimit := calc
      ofDigits digits < (0 + 1) * 10 ^ digits.length := foldl_digits_lt hdigits 0
      _ = 10 ^ digits.length := by rw [Nat.zero_add, Nat.one_mul]
      _ ≤ 10 ^ digitLimit := Nat.pow_le_pow_right (by decide) (Nat.le_of_not_lt hlength)
    rw [IsShort, Int.natAbs_natCast]
    exact (Nat.length_toDigits_le_iff (by decide) (by decide)).mpr hlt

end ApiDoc.Number
