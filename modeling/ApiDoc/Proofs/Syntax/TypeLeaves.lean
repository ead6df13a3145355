import ApiDoc.Proofs.Syntax.Generations

/-!
# The names in a type

A type is written from the names and identifiers in it, its `leaves`. Whatever else its nodes hold, their texts stand in the written type in order, each once, and nothing stands between two of them but one separator: cut at the separators, the written type gives the leaves back (`pieces_typeName`).

A member that has no text takes its separator with it, so what a type gives is followed through members without a text as through others: `piecesOf` counts a type that is absent and one that is empty alike.
-/

namespace ApiDoc.Syntax

open Json

/-- The texts of the identifiers and names in a type, in order; an empty one does not count. -/
def leaves (j : Json) : List String :=
  match nodeType j with
  | "Identifier" => [identifier j].filter fun text => text ≠ ""
  | "Name" | "Name_FullyQualified" | "Name_Relative" => [qualifiedName j].filter fun text => text ≠ ""
  | "NullableType" => if _h : j.isObject = true then leaves (j.field "type") else []
  | "UnionType" | "IntersectionType" => (j.field "types").list.attach.flatMap fun ⟨t, _⟩ => leaves t
  | _ => []
termination_by sizeOf j
decreasing_by
  · exact sizeOf_field_lt (by assumption)
  · exact sizeOf_item_lt (by assumption)

/-- The characters that join the members of a type. -/
def isSeparator (c : Char) : Bool := c == '|' || c == '&'

/-- The parts of a written type between its separators, without the question marks in front of them. -/
def pieces (text : String) : List String :=
  (text.toList.splitOnP isSeparator).map fun piece => String.ofList (piece.dropWhile (· == '?'))

/-- The pieces of a type that may be absent or empty; it has none then. -/
def piecesOf : Option String → List String
  | none => []
  | some text => if text = "" then [] else pieces text

/-- A text without the characters that types are put together with. -/
def IsPlainText (text : String) : Prop := ∀ c ∈ text.toList, c ≠ '|' ∧ c ≠ '&' ∧ c ≠ '?'

instance (text : String) : Decidable (IsPlainText text) :=
  List.decidableBAll (fun c : Char => c ≠ '|' ∧ c ≠ '&' ∧ c ≠ '?') text.toList

/-! ### Pieces of texts put together -/

theorem pieces_ne_nil (text : String) : pieces text ≠ [] := by simp [pieces]

theorem piecesOf_some {text : String} (h : text ≠ "") : piecesOf (some text) = pieces text := if_neg h

theorem pieces_of_isPlainText {text : String} (h : IsPlainText text) : pieces text = [text] := by
  have hwhole : text.toList.splitOnP isSeparator = [text.toList] := by
    refine List.splitOnP_eq_singleton fun c hc => ?_
    obtain ⟨hbar, hand, -⟩ := h c hc
    simp [isSeparator, hbar, hand]
  have hmark : text.toList.dropWhile (· == '?') = text.toList := by
    cases htext : text.toList with
    | nil => rfl
    | cons c cs =>
      obtain ⟨-, -, hc⟩ := h c (by simp [htext])
      rw [List.dropWhile_cons_of_neg (by simpa using hc)]
  rw [pieces, hwhole, List.map_singleton, hmark, String.ofList_toList]

theorem piecesOf_leaf {text : String} (h : text ≠ "" → IsPlainText text) :
    piecesOf (some text) = [text].filter fun text => text ≠ "" := by
  by_cases hempty : text = ""
  · subst hempty
    rfl
  · rw [piecesOf_some hempty, pieces_of_isPlainText (h hempty)]
    simp [hempty]

/-- A question mark in front goes with those of the first piece. -/
theorem pieces_question (text : String) : pieces ("?" ++ text) = pieces text := by
  have hquestion : isSeparator '?' = false := by decide
  obtain ⟨piece, rest, hpieces⟩ := List.exists_cons_of_ne_nil (List.splitOnP_ne_nil isSeparator text.toList)
  have htext : ("?" ++ text).toList = '?' :: text.toList := by simp
  rw [pieces, pieces, htext, List.splitOnP_cons_eq_if_modifyHead, hquestion, hpieces]
  simp

theorem piecesOf_nullable (inner : Option String) :
    piecesOf (inner.bind fun text => if text.isEmpty then none else some ("?" ++ text)) = piecesOf inner := by
  cases inner with
  | none => rfl
  | some text =>
    by_cases hempty : text = ""
    · subst hempty
      rfl
    · have hquestion : "?" ++ text ≠ "" := by simp
      simp [hempty, piecesOf_some, pieces_question]

theorem pieces_append {separator : String} {c : Char} (hseparator : separator.toList = [c]) (hc : isSeparator c = true)
    (text text' : String) : pieces (text ++ separator ++ text') = pieces text ++ pieces text' := by
  have htext : (text ++ separator ++ text').toList = text.toList ++ c :: text'.toList := by simp [hseparator]
  rw [pieces, htext, List.splitOnP_append_cons _ _ hc, List.map_append]
  rfl

theorem pieces_intercalate {separator : String} {c : Char} (hseparator : separator.toList = [c]) (hc : isSeparator c = true)
    {texts : List String} (hne : texts ≠ []) : pieces (separator.intercalate texts) = texts.flatMap pieces := by
  induction texts with
  | nil => exact absurd rfl hne
  | cons text rest ih =>
    cases rest with
    | nil => simp
    | cons text' rest =>
      rw [String.intercalate_cons_cons, pieces_append hseparator hc, ih (by simp), ← List.flatMap_cons]

theorem intercalate_ne_empty {separator : String} {texts : List String} (hne : texts ≠ []) (h : ∀ text ∈ texts, text ≠ "") :
    separator.intercalate texts ≠ "" := by
  obtain ⟨text, rest, rfl⟩ := List.exists_cons_of_ne_nil hne
  have htext : text ≠ "" := h text List.mem_cons_self
  cases rest with
  | nil => simpa using htext
  | cons text' rest => simp [String.intercalate_cons_cons, htext]

theorem mem_textsOf {members : List (Option String)} {text : String} : text ∈ textsOf members ↔ some text ∈ members ∧ text ≠ "" := by
  simp [textsOf, Option.filter_eq_some_iff]

theorem flatMap_textsOf (members : List (Option String)) : (textsOf members).flatMap pieces = members.flatMap piecesOf := by
  induction members with
  | nil => rfl
  | cons member rest ih =>
    cases member with
    | none => simpa [piecesOf] using ih
    | some text => by_cases hempty : text = "" <;> simp [piecesOf, hempty, ih]

/-- Members that are joined keep their pieces, with none between them. -/
theorem piecesOf_joinTypes {separator : String} {c : Char} (hseparator : separator.toList = [c]) (hc : isSeparator c = true)
    (members : List (Option String)) : piecesOf (joinTypes separator members) = members.flatMap piecesOf := by
  rw [← flatMap_textsOf, joinTypes_eq]
  by_cases hne : textsOf members = []
  · rw [if_pos hne, hne]
    rfl
  · have hjoined : separator.intercalate (textsOf members) ≠ "" :=
      intercalate_ne_empty hne fun text htext => (mem_textsOf.mp htext).2
    rw [if_neg hne, piecesOf_some hjoined, pieces_intercalate hseparator hc hne]

/-! ### The written type -/

theorem flatMap_attach (members : List Json) : (members.attach.flatMap fun ⟨t, _⟩ => leaves t) = members.flatMap leaves := by
  simp [List.flatMap_def]

theorem piecesOf_members {members : List Json}
    (h : ∀ t ∈ members, (∀ text ∈ leaves t, IsPlainText text) → leaves t = piecesOf (typeName t))
    (hplain : ∀ text ∈ members.flatMap leaves, IsPlainText text) :
    members.flatMap leaves = (members.map typeName).flatMap piecesOf := by
  rw [List.flatMap_map]
  refine List.flatMap_congr fun t ht => h t ht fun text htext => hplain text ?_
  exact List.mem_flatMap.mpr ⟨t, ht, htext⟩

theorem leaves_eq_piecesOf {j : Json} (hplain : ∀ text ∈ leaves j, IsPlainText text) : leaves j = piecesOf (typeName j) := by
  fun_induction leaves j with
  | case1 j hkind =>
    rw [typeName_identifier hkind, piecesOf_leaf fun hne => hplain _ (by simp [hne])]
  | case2 j hkind =>
    rw [typeName_name (by simp [hkind]), piecesOf_leaf fun hne => hplain _ (by simp [hne])]
  | case3 j hkind =>
    rw [typeName_name (by simp [hkind]), piecesOf_leaf fun hne => hplain _ (by simp [hne])]
  | case4 j hkind =>
    rw [typeName_name (by simp [hkind]), piecesOf_leaf fun hne => hplain _ (by simp [hne])]
  | case5 j hkind hobject ih =>
    rw [typeName_nullable hobject hkind, piecesOf_nullable, ih hplain]
  | case6 j hkind hobject => exact absurd (isObject_of_nodeType hkind (by decide)) hobject
  | case7 j hkind ih =>
    rw [flatMap_attach] at hplain ⊢
    rw [typeName_union hkind, piecesOf_joinTypes rfl (by decide), piecesOf_members ih hplain]
  | case8 j hkind ih =>
    rw [flatMap_attach] at hplain ⊢
    rw [typeName_intersection hkind, piecesOf_joinTypes rfl (by decide), piecesOf_members ih hplain]
  | case9 j =>
    rw [typeName_unknown (by simp_all)]
    rfl

theorem empty_notMem_leaves (j : Json) : "" ∉ leaves j := by
  fun_induction leaves j with
  | case1 => simp
  | case2 => simp
  | case3 => simp
  | case4 => simp
  | case5 j hkind hobject ih => exact ih
  | case6 => simp
  | case7 j hkind ih =>
    rw [flatMap_attach, List.mem_flatMap]
    rintro ⟨t, ht, hempty⟩
    exact ih t ht hempty
  | case8 j hkind ih =>
    rw [flatMap_attach, List.mem_flatMap]
    rintro ⟨t, ht, hempty⟩
    exact ih t ht hempty
  | case9 => simp

/-- **A written type gives its leaves back.** -/
theorem pieces_typeName {j : Json} (hplain : ∀ text ∈ leaves j, IsPlainText text) :
    (leaves j = [] ↔ typeName j = none ∨ typeName j = some "")
      ∧ ∀ text, typeName j = some text → text ≠ "" → pieces text = leaves j ∧ "" ∉ pieces text := by
  have hleaves := leaves_eq_piecesOf hplain
  constructor
  · rw [hleaves]
    cases typeName j with
    | none => simp [piecesOf]
    | some text =>
      by_cases hempty : text = ""
      · simp [piecesOf, hempty]
      · simp [piecesOf_some hempty, pieces_ne_nil, hempty]
  · intro text htext hne
    rw [htext, piecesOf_some hne] at hleaves
    rw [← hleaves]
    exact ⟨rfl, empty_notMem_leaves j⟩

def membersNode (kind : String) (members : List Json) : Json := .obj [("nodeType", .str kind), ("types", .arr members)]

def nullableNode (type : Json) : Json := .obj [("nodeType", .str "NullableType"), ("type", type)]

/-- A type with members that are missing, empty or no types, at two depths. -/
def brokenType : Json :=
  membersNode "UnionType"
    [.null,
      nullableNode (membersNode "UnionType" [partsNode "Name" ["A"], .obj [], wholeNameNode "Name_FullyQualified" "B\\C"]),
      .str "junk", membersNode "IntersectionType" [], wholeNameNode "Identifier" "",
      membersNode "IntersectionType" [wholeNameNode "Identifier" "int", nullableNode .null]]

theorem pieces_brokenType :
    (∀ text ∈ leaves brokenType, IsPlainText text) ∧ leaves brokenType = ["A", "\\B\\C", "int"]
      ∧ typeName brokenType = some "?A|\\B\\C|int" ∧ pieces "?A|\\B\\C|int" = leaves brokenType := by
  have hleaves : leaves brokenType = ["A", "\\B\\C", "int"] := by decide +kernel
  have htype : typeName brokenType = some "?A|\\B\\C|int" := by decide +kernel
  have hplain : ∀ text ∈ leaves brokenType, IsPlainText text := by
    rw [hleaves]
    decide
  obtain ⟨-, hpieces⟩ := pieces_typeName hplain
  exact ⟨hplain, hleaves, htype, (hpieces _ htype (by decide)).1⟩

end ApiDoc.Syntax
