import Mathlib.Data.List.Infix
import ApiDoc.Logging.Source

/-!
# Names of loggers

The loggers of the package go by short names, and by full names with the family name in front. Every short name has one full name, no short name is a full one, and two names of sections stand for the same logger only if one of them is the short form of the other (`spellings_of_sectionName_eq`).
-/

namespace ApiDoc.Logging

theorem isBelow_iff {above name : String} : isBelow above name = true ↔ ∃ rest, name.toList = above.toList ++ '.' :: rest := by
  unfold isBelow
  rw [List.isPrefixOf_iff_prefix, String.toList_append]
  constructor
  · rintro ⟨rest, hrest⟩
    exact ⟨rest, by rw [← hrest, List.append_assoc]; rfl⟩
  · rintro ⟨rest, hrest⟩
    exact ⟨rest, by rw [hrest, List.append_assoc]; rfl⟩

theorem isPackageName_iff {name : String} :
    isPackageName name = true ↔ name = packageName ∨ isBelow packageName name = true := by
  rw [isPackageName, Bool.or_eq_true, beq_iff_eq]

theorem prefix_of_isPackageName {name : String} (h : isPackageName name = true) : packageName.toList <+: name.toList := by
  rcases isPackageName_iff.mp h with rfl | hbelow
  · exact List.prefix_refl _
  · obtain ⟨rest, hrest⟩ := isBelow_iff.mp hbelow
    exact ⟨'.' :: rest, hrest.symm⟩

theorem not_isBelow_family {name : String} (h : isPackageName name = true) : isBelow familyName name = false := by
  rw [Bool.eq_false_iff]
  intro hfamily
  obtain ⟨rest, hrest⟩ := isBelow_iff.mp hfamily
  obtain ⟨rest', hrest'⟩ := prefix_of_isPackageName h
  -- the second letters differ
  have hsecond : (packageName.toList ++ rest')[1]? = (familyName.toList ++ '.' :: rest)[1]? := by rw [hrest', hrest]
  cases hsecond

theorem fullName_of_isPackageName {name : String} (h : isPackageName name = true) : fullName name = familyName ++ "." ++ name := by
  have hne : name.isEmpty = false := by
    rw [Bool.eq_false_iff, ne_eq, String.isEmpty_iff]
    rintro rfl
    cases h
  simp only [fullName, hne, not_isBelow_family h, Bool.false_eq_true, ↓reduceIte]

theorem isPackageName_full (name : String) : isPackageName (familyName ++ "." ++ name) = false := by
  rw [Bool.eq_false_iff]
  intro h
  have hfamily : isBelow familyName (familyName ++ "." ++ name) = true := by
    rw [isBelow_iff]
    exact ⟨name.toList, by rw [String.toList_append, String.toList_append, List.append_assoc]; rfl⟩
  rw [not_isBelow_family h] at hfamily
  cases hfamily

theorem sectionName_of_isPackageName {name : String} (h : isPackageName name = true) :
    sectionName name = familyName ++ "." ++ name := by
  rw [sectionName, if_pos h, fullName_of_isPackageName h]

theorem sectionName_of_not_isPackageName {name : String} (h : isPackageName name = false) : sectionName name = name := by
  rw [sectionName, h, if_neg Bool.false_ne_true]

theorem isPackageName_sectionName (name : String) : isPackageName (sectionName name) = false := by
  cases h : isPackageName name with
  | true => rw [sectionName_of_isPackageName h, isPackageName_full]
  | false => rw [sectionName_of_not_isPackageName h, h]

theorem append_right_injective {above a b : String} (h : above ++ "." ++ a = above ++ "." ++ b) : a = b := by
  have hlist := congrArg String.toList h
  simp only [String.toList_append] at hlist
  exact String.ext (List.append_cancel_left hlist)

/-- Two names of one logger, of which one is short. -/
def Spellings (a b : String) : Prop :=
  (isPackageName a = true ∧ b = familyName ++ "." ++ a) ∨ (isPackageName b = true ∧ a = familyName ++ "." ++ b)

instance (a b : String) : Decidable (Spellings a b) := inferInstanceAs (Decidable (_ ∨ _))

theorem Spellings.symm {a b : String} (h : Spellings a b) : Spellings b a := Or.symm h

/-- A name can be spelled in one other way at most. -/
theorem Spellings.unique {a b c : String} (hb : Spellings a b) (hc : Spellings a c) : b = c := by
  rcases hb with ⟨ha, rfl⟩ | ⟨hb, rfl⟩
  · rcases hc with ⟨-, rfl⟩ | ⟨-, rfl⟩
    · rfl
    · rw [isPackageName_full] at ha
      cases ha
  · rcases hc with ⟨ha, -⟩ | ⟨-, heq⟩
    · rw [isPackageName_full] at ha
      cases ha
    · exact append_right_injective heq

theorem Spellings.sectionName_eq {a b : String} (h : Spellings a b) : sectionName a = sectionName b := by
  rcases h with ⟨ha, rfl⟩ | ⟨hb, rfl⟩
  · rw [sectionName_of_isPackageName ha, sectionName_of_not_isPackageName (isPackageName_full a)]
  · rw [sectionName_of_isPackageName hb, sectionName_of_not_isPackageName (isPackageName_full b)]

/-- **Sections of one logger have one name, or one of the names is the short form of the other.** -/
theorem spellings_of_sectionName_eq {a b : String} (h : sectionName a = sectionName b) : a = b ∨ Spellings a b := by
  cases ha : isPackageName a with
  | true =>
    rw [sectionName_of_isPackageName ha] at h
    cases hb : isPackageName b with
    | true =>
      rw [sectionName_of_isPackageName hb] at h
      exact .inl (append_right_injective h)
    | false =>
      rw [sectionName_of_not_isPackageName hb] at h
      exact .inr (.inl ⟨ha, h.symm⟩)
  | false =>
    rw [sectionName_of_not_isPackageName ha] at h
    cases hb : isPackageName b with
    | true =>
      rw [sectionName_of_isPackageName hb] at h
      exact .inr (.inr ⟨hb, h⟩)
    | false =>
      rw [sectionName_of_not_isPackageName hb] at h
      exact .inl h

end ApiDoc.Logging
