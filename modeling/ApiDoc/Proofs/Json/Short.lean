import Mathlib.Data.List.TakeDrop
import Mathlib.Data.List.TakeWhile
import ApiDoc.Json.Read
import ApiDoc.Proofs.Keyed
import ApiDoc.Proofs.Number.Digits
import ApiDoc.Proofs.Traversal

/-!
# Whole numbers that were read

A whole number with too many digits is refused, so those in a value that was read are short, at any depth (`short_of_parse`), and so is every number that is found in such a value (`Short.field`, `Short.list`, `Short.int?`).
-/

namespace ApiDoc

namespace Json

/-- A value in which all whole numbers are short. -/
inductive Short : Json → Prop
  | null : Short .null
  | bool (b : Bool) : Short (.bool b)
  | int {n : Int} (h : Number.IsShort n) : Short (.int n)
  | float (x : Number.Binary64) : Short (.float x)
  | str (s : String) : Short (.str s)
  | arr {items : List Json} (h : ∀ item ∈ items, Short item) : Short (.arr items)
  | obj {members : List (String × Json)} (h : ∀ e ∈ members, Short e.2) : Short (.obj members)

/-! ### Parts -/

theorem Short.field {j : Json} (h : Short j) (key : String) : Short (j.field key) := by
  cases h with
  | @obj members h =>
    rw [Json.field]
    cases hget : Keyed.get? key members with
    | none => exact .null
    | some value => exact h (key, value) (Keyed.mem_of_get? hget)
  | _ => exact .null

theorem Short.list {j : Json} (h : Short j) : ∀ item ∈ j.list, Short item := by
  cases h with
  | arr h => exact h
  | _ => simp [Json.list]

theorem Short.int? {j : Json} (h : Short j) {n : Int} (hn : j.int? = some n) : Number.IsShort n := by
  cases h with
  | int h => exact Option.some.inj hn ▸ h
  | _ => cases hn

/-! ### Reading -/

theorem isDigit_of_wholeDigits (s : List Char) : ∀ c ∈ (wholeDigits s).1, c.isDigit = true := by
  intro c hc
  rw [wholeDigits.eq_def] at hc
  split at hc
  · rw [List.mem_singleton.mp hc]
    rfl
  · rw [spanDigits, List.span_eq_takeWhile_dropWhile] at hc
    exact List.mem_takeWhile_imp hc

theorem short_of_unsigned {left : Nat} {negative : Bool} {s rest : List Char} {j : Json}
    (h : unsigned left negative s = .ok (j, rest)) : Short j := by
  have hdigits := isDigit_of_wholeDigits s
  rw [unsigned] at h
  split at h
  · cases h
  · rename_i whole after hwhole
    rw [hwhole] at hdigits
    dsimp only at h
    split at h
    · split at h
      · cases h
      · rename_i n hread
        have hshort := Number.isShort_of_readDigits hdigits hread
        obtain rfl := (Prod.mk.inj (Except.ok.inj h)).1
        cases negative with
        | false => exact .int hshort
        | true => exact .int (Number.isShort_neg.mpr hshort)
    · obtain rfl := (Prod.mk.inj (Except.ok.inj h)).1
      exact .float _

theorem short_of_atom {s rest : List Char} {j : Json} (h : atom s = .ok (j, rest)) : Short j := by
  rw [atom] at h
  split at h
  · rename_i found hword
    rw [Except.ok.inj h] at hword
    obtain ⟨⟨w, v⟩, hmem, hfound⟩ := List.exists_of_findSome?_eq_some hword
    have hwords : ∀ p ∈ words, Short p.2 := by
      simp only [words, List.forall_mem_cons]
      exact ⟨.null, .bool _, .bool _, .float _, .float _, .float _, by simp⟩
    dsimp only at hfound
    split at hfound
    · obtain ⟨rfl, -⟩ := Prod.mk.inj (Option.some.inj hfound)
      exact hwords _ hmem
    · cases hfound
  · rw [number.eq_def] at h
    split at h
    · exact short_of_unsigned h
    · exact short_of_unsigned h

/-- What is read within some steps is short, as a value, or as the rest of an array or an object of which the parts before are short. -/
structure ReadsShort (fuel : Nat) : Prop where
  of_value : ∀ {s rest j}, value fuel s = .ok (j, rest) → Short j
  of_items : ∀ {before s rest j}, (∀ item ∈ before, Short item) → items fuel before s = .ok (j, rest) → Short j
  of_members : ∀ {before s rest j}, (∀ e ∈ before, Short e.2) → members fuel before s = .ok (j, rest) → Short j

section

variable {fuel : Nat} (ih : ReadsShort fuel) {s rest : List Char} {j : Json}
include ih

theorem ReadsShort.value_succ (h : value (fuel + 1) s = .ok (j, rest)) : Short j := by
  rw [value.eq_def] at h
  dsimp only at h
  split at h
  · obtain ⟨⟨text, after⟩, -, h⟩ := bind_eq_ok_iff.mp h
    obtain rfl := (Prod.mk.inj (Except.ok.inj h)).1
    exact .str text
  · split at h
    · obtain rfl := (Prod.mk.inj (Except.ok.inj h)).1
      exact .obj (by simp)
    · exact ih.of_members (by simp) h
  · split at h
    · obtain rfl := (Prod.mk.inj (Except.ok.inj h)).1
      exact .arr (by simp)
    · exact ih.of_items (by simp) h
  · exact short_of_atom h

theorem ReadsShort.items_succ {before : List Json} (hbefore : ∀ item ∈ before, Short item)
    (h : items (fuel + 1) before s = .ok (j, rest)) : Short j := by
  rw [items] at h
  obtain ⟨⟨item, after⟩, hitem, h⟩ := bind_eq_ok_iff.mp h
  have hall : ∀ x ∈ item :: before, Short x := List.forall_mem_cons.mpr ⟨ih.of_value hitem, hbefore⟩
  dsimp only at h
  split at h
  · obtain rfl := (Prod.mk.inj (Except.ok.inj h)).1
    exact .arr fun x hx => hall x (List.mem_reverse.mp hx)
  · exact ih.of_items hall h
  · cases h

theorem ReadsShort.members_succ {before : Keyed Json} (hbefore : ∀ e ∈ before, Short e.2)
    (h : members (fuel + 1) before s = .ok (j, rest)) : Short j := by
  rw [members.eq_def] at h
  dsimp only at h
  split at h
  · obtain ⟨⟨name, after⟩, -, h⟩ := bind_eq_ok_iff.mp h
    dsimp only at h
    split at h
    · obtain ⟨⟨item, after⟩, hitem, h⟩ := bind_eq_ok_iff.mp h
      have hall : ∀ e ∈ Keyed.put name item before, Short e.2 := by
        intro e he
        rcases Keyed.mem_put he with heq | he
        · rw [heq]
          exact ih.of_value hitem
        · exact hbefore e he
      dsimp only at h
      split at h
      · obtain rfl := (Prod.mk.inj (Except.ok.inj h)).1
        exact .obj hall
      · exact ih.of_members hall h
      · cases h
    · cases h
  · cases h

end

theorem readsShort (fuel : Nat) : ReadsShort fuel := by
  induction fuel with
  | zero =>
    refine ⟨fun h => ?_, fun _ h => ?_, fun _ h => ?_⟩
    · rw [value] at h
      cases h
    · rw [items] at h
      cases h
    · rw [members] at h
      cases h
  | succ fuel ih => exact ⟨ih.value_succ, ih.items_succ, ih.members_succ⟩

/-- **Whole numbers in a value that was read are short.** -/
theorem short_of_parse {text : List Char} {j : Json} (h : parse text = .ok j) : Short j := by
  rw [parse] at h
  split at h
  · rename_i j' hdocument
    obtain rfl := Except.ok.inj h
    rw [document.eq_def] at hdocument
    split at hdocument
    · cases hdocument
    · obtain ⟨⟨read, rest⟩, hread, hdocument⟩ := bind_eq_ok_iff.mp hdocument
      dsimp only at hdocument
      split at hdocument
      · obtain rfl := Except.ok.inj hdocument
        exact (readsShort _).of_value hread
      · cases hdocument
  · cases h

end Json

end ApiDoc
