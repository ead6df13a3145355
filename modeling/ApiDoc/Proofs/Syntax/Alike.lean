import Mathlib.Data.List.Forall2
import ApiDoc.Proofs.Syntax.Generations
import ApiDoc.Proofs.Syntax.Retouch

/-!
# Dumps that are read alike

Two dumps may differ in much that a tree does not show, and in some more that its documentation does not. `Alike` compares values member by member, in any order, and leaves out what `MayDiffer` says:

* keys that are never read and the bodies of functions and methods always, so that the trees are equal;
* for the documentation also lines, the kinds of comments and the flags of classes, so that the trees are equal once these are forgotten (`Closeness.retouch`).

A value that is displayed in place of a name shows all of it, the order of its members too. So the names and parts of names that are shown must be texts, and the switches of parameters truth values: `Legible` says it for what is read at one place, `LegibleBelow` for all that is read from there. Then alike values are read as the same (`retouch_statement_eq`).
-/

namespace ApiDoc.Syntax

open Json

/-! ### What may differ -/

/-- How closely dumps are compared. -/
inductive Closeness where
  /-- As far as the tree shows. -/
  | tree
  /-- As far as the documentation shows. -/
  | documentation
  deriving DecidableEq, Repr

/-- What a value is in a dump. -/
inductive Role where
  | node
  /-- The comments attached to a node. -/
  | comments
  | comment
  deriving DecidableEq, Repr

/-- What the entries of a list are. -/
def Role.entry : Role → Role
  | .comments => .comment
  | _ => .node

/-- What the member of an object under a key is. -/
def Role.member (key : String) : Role := if key = "comments" then .comments else .node

/-- The keys that are read in some object. -/
def readKeys : List String :=
  ["nodeType", "name", "parts", "stmts", "flags", "params", "returnType", "props", "type", "types", "default", "var", "byRef",
    "variadic", "value", "expr", "attributes", "comments", "text", "startLine", "line"]

/-- The members of an object of some role and kind that may differ. -/
def MayDiffer (c : Closeness) (role : Role) (kind key : String) : Prop :=
  key ∉ readKeys
    ∨ (kind = "Stmt_Function" ∨ kind = "Stmt_ClassMethod") ∧ key = "stmts"
    ∨ c = .documentation ∧
      ((key = "startLine" ∨ key = "line") ∨ role = .comment ∧ key = "nodeType" ∨ kind = "Stmt_Class" ∧ key = "flags")

instance (c : Closeness) (role : Role) (kind key : String) : Decidable (MayDiffer c role kind key) :=
  inferInstanceAs (Decidable (_ ∨ _))

/-- Values that differ only in what may differ, at any depth. A member that is missing counts as null. -/
inductive Alike (c : Closeness) : Role → Json → Json → Prop
  | null (role : Role) : Alike c role .null .null
  | bool (role : Role) (b : Bool) : Alike c role (.bool b) (.bool b)
  | int (role : Role) (n : Int) : Alike c role (.int n) (.int n)
  | float (role : Role) (x : Number.Binary64) : Alike c role (.float x) (.float x)
  | str (role : Role) (s : String) : Alike c role (.str s) (.str s)
  | arr {role : Role} {items items' : List Json} (hlength : items.length = items'.length)
      (h : ∀ p ∈ items.zip items', Alike c role.entry p.1 p.2) : Alike c role (.arr items) (.arr items')
  | obj {role : Role} {members members' : List (String × Json)}
      (h : ∀ key, ¬ MayDiffer c role (nodeType (.obj members)) key →
        Alike c (.member key) ((Json.obj members).field key) ((Json.obj members').field key)) :
      Alike c role (.obj members) (.obj members')

/-! ### What has to be legible -/

def IsText (j : Json) : Prop := j = .null ∨ ∃ s, j = .str s

def IsSwitch (j : Json) : Prop := j = .null ∨ ∃ b, j = .bool b

/-- The values that are shown in place of names or taken as switches when a value is read at a place, but not below it. -/
def Place.Legible : Place → Json → Prop
  | .statement, j => nodeType j ∈ ["Stmt_Class", "Stmt_Function"] → IsText ((j.field "name").field "name")
  | .member, j => nodeType j = "Stmt_ClassMethod" → IsText ((j.field "name").field "name")
  | .item, j => nodeType j ∈ ["Stmt_PropertyProperty", "PropertyItem"] → IsText ((j.field "name").field "name")
  | .param, j => nodeType j = "Param" → IsSwitch (j.field "byRef") ∧ IsSwitch (j.field "variadic")
  | .name, j => NameLegible j
  | .type, j =>
    (nodeType j = "Identifier" → IsText (j.field "name"))
      ∧ (nodeType j ∈ ["Name", "Name_FullyQualified", "Name_Relative"] → NameLegible j)
  | .expression, _ => True
where
  /-- A name node shows its parts, or its name when it has none. -/
  NameLegible (j : Json) : Prop :=
    match j.field "parts" with
    | .arr parts => ∀ part ∈ parts, IsText part
    | _ => IsText (j.field "name")

/-- Reading a value at a place reads another value at another place. -/
inductive Place.Reaches : Place → Json → Place → Json → Prop
  | here (place : Place) (j : Json) : Reaches place j place j
  | member {place inner target : Place} {j x : Json} {key : String} (hholds : place.Holds (nodeType j) key inner)
      (h : Reaches inner (j.field key) target x) : Reaches place j target x
  | entry {place inner target : Place} {j item x : Json} {key : String} (hholds : place.HoldsEach (nodeType j) key inner)
      (hitem : item ∈ (j.field key).list) (h : Reaches inner item target x) : Reaches place j target x

/-- Everything that reading a value at a place shows is legible. -/
def Place.LegibleBelow (place : Place) (j : Json) : Prop := ∀ target x, place.Reaches j target x → target.Legible x

namespace Place.LegibleBelow

variable {place inner : Place} {j : Json} {key : String}

theorem here (h : place.LegibleBelow j) : place.Legible j := h place j (.here place j)

theorem member (h : place.LegibleBelow j) (hholds : place.Holds (nodeType j) key inner) : inner.LegibleBelow (j.field key) :=
  fun target x hx => h target x (.member hholds hx)

theorem entry (h : place.LegibleBelow j) (hholds : place.HoldsEach (nodeType j) key inner) {item : Json}
    (hitem : item ∈ (j.field key).list) : inner.LegibleBelow item :=
  fun target x hx => h target x (.entry hholds hitem hx)

theorem of_parts (hhere : place.Legible j)
    (hmember : ∀ key inner, place.Holds (nodeType j) key inner → inner.LegibleBelow (j.field key))
    (hentry : ∀ key inner, place.HoldsEach (nodeType j) key inner → ∀ item ∈ (j.field key).list, inner.LegibleBelow item) :
    place.LegibleBelow j := by
  intro target x hreaches
  cases hreaches with
  | here => exact hhere
  | member hholds h => exact hmember _ _ hholds target x h
  | entry hholds hitem h => exact hentry _ _ hholds _ hitem target x h

end Place.LegibleBelow

/-! ### Parts of alike values -/

section Lists

variable {α β : Type} {R : α → α → Prop} {xs ys : List α}

theorem map_eq_of_forall₂ {f : α → β} (h : List.Forall₂ R xs ys) (hf : ∀ x ∈ xs, ∀ y, R x y → f x = f y) :
    xs.map f = ys.map f := by
  induction h with
  | nil => rfl
  | cons hxy _ ih =>
    rw [List.forall_mem_cons] at hf
    rw [List.map_cons, List.map_cons, hf.1 _ hxy, ih hf.2]

theorem filterMap_eq_of_forall₂ {f : α → Option β} (h : List.Forall₂ R xs ys) (hf : ∀ x ∈ xs, ∀ y, R x y → f x = f y) :
    xs.filterMap f = ys.filterMap f := by
  have hmap := congrArg (List.filterMap id) (map_eq_of_forall₂ h hf)
  rwa [List.filterMap_map, List.filterMap_map] at hmap

end Lists

namespace Alike

variable {c : Closeness} {role : Role} {j j' : Json}

theorem field (h : Alike c role j j') (key : String) (hkey : ¬ MayDiffer c role (nodeType j) key) :
    Alike c (.member key) (j.field key) (j'.field key) := by
  cases h with
  | obj h => exact h key hkey
  | _ => exact .null _

theorem obj_of_readKeys {members members' : List (String × Json)}
    (h : ∀ key ∈ readKeys, ¬ MayDiffer c role (nodeType (.obj members)) key →
      Alike c (.member key) ((Json.obj members).field key) ((Json.obj members').field key)) :
    Alike c role (.obj members) (.obj members') :=
  .obj fun key hkey => h key (Decidable.not_not.mp fun hread => hkey (.inl hread)) hkey

theorem list (h : Alike c role j j') : List.Forall₂ (Alike c role.entry) j.list j'.list := by
  cases h with
  | arr hlength h => exact List.forall₂_iff_zip.mpr ⟨hlength, fun hmem => h _ hmem⟩
  | _ => exact .nil

theorem str?_eq (h : Alike c role j j') : j.str? = j'.str? := by cases h <;> rfl

theorem int?_eq (h : Alike c role j j') : j.int? = j'.int? := by cases h <;> rfl

theorem isObject_eq (h : Alike c role j j') : j.isObject = j'.isObject := by cases h <;> rfl

theorem ofJson?_eq (h : Alike c role j j') : Scalar.ofJson? j = Scalar.ofJson? j' := by cases h <;> rfl

theorem eq_of_isText (h : Alike c role j j') (htext : IsText j) : j = j' := by
  rcases htext with rfl | ⟨s, rfl⟩ <;> cases h <;> rfl

theorem eq_of_isSwitch (h : Alike c role j j') (hswitch : IsSwitch j) : j = j' := by
  rcases hswitch with rfl | ⟨b, rfl⟩ <;> cases h <;> rfl

theorem member (h : Alike c .node j j') (key : String)
    (hkey : key ∈ ["nodeType", "name", "parts", "params", "returnType", "props", "type", "types", "default", "var", "byRef",
      "variadic", "value", "expr", "attributes"]) : Alike c .node (j.field key) (j'.field key) := by
  have hfield := h.field key
  simp only [List.mem_cons, List.not_mem_nil, or_false] at hkey
  rcases hkey with rfl | rfl | rfl | rfl | rfl | rfl | rfl | rfl | rfl | rfl | rfl | rfl | rfl | rfl | rfl <;>
    exact hfield (by simp [MayDiffer, readKeys])

theorem nodeType_eq (h : Alike c .node j j') : nodeType j = nodeType j' := by
  rw [nodeType, nodeType, (h.member "nodeType" (by decide)).str?_eq]

theorem stmts (h : Alike c .node j j') (hkind : nodeType j ∈ ["Stmt_Namespace", "Stmt_Class"]) :
    List.Forall₂ (Alike c .node) (j.field "stmts").list (j'.field "stmts").list := by
  have hfield : Alike c .node (j.field "stmts") (j'.field "stmts") := by
    refine h.field "stmts" ?_
    simp only [List.mem_cons, List.not_mem_nil, or_false] at hkind
    rcases hkind with hkind | hkind <;> simp [MayDiffer, readKeys, hkind]
  exact hfield.list

theorem flagsAt_eq (h : Alike c .node j j') (hkind : nodeType j ≠ "Stmt_Class") : flagsAt j = flagsAt j' := by
  rw [flagsAt, flagsAt, (h.field "flags" (by simp [MayDiffer, readKeys, hkind])).int?_eq]

end Alike

variable {c : Closeness} {j j' : Json}

/-! ### Comments and lines -/

/-- What is forgotten of trees when dumps are compared. -/
def Closeness.retouch : Closeness → Retouch
  | .tree => .nothing
  | .documentation => .textsOnly

theorem Alike.attached (h : Alike c .node j j') :
    List.Forall₂ (Alike c .comment) ((j.field "attributes").field "comments").list ((j'.field "attributes").field "comments").list := by
  have hattributes := h.member "attributes" (by decide)
  exact (hattributes.field "comments" (by simp [MayDiffer, readKeys])).list

theorem Alike.comment_text_eq {role : Role} (h : Alike c role j j') :
    (Comment.ofJson? j).map Comment.text = (Comment.ofJson? j').map Comment.text := by
  have htext := (h.field "text" (by simp [MayDiffer, readKeys])).str?_eq
  rw [Comment.ofJson?, Comment.ofJson?, Option.map_map, Option.map_map, htext]
  rfl

theorem Alike.comment_eq {role : Role} (h : Alike .tree role j j') : Comment.ofJson? j = Comment.ofJson? j' := by
  have htext := (h.field "text" (by simp [MayDiffer, readKeys])).str?_eq
  have hline := (h.field "line" (by simp [MayDiffer, readKeys])).int?_eq
  have hkind := (h.field "nodeType" (by simp [MayDiffer, readKeys])).str?_eq
  rw [Comment.ofJson?, Comment.ofJson?, htext, hline, hkind]

theorem Alike.commentsAt_eq (h : Alike .tree .node j j') : commentsAt j = commentsAt j' :=
  filterMap_eq_of_forall₂ h.attached fun _ _ _ hxy => hxy.comment_eq

theorem Alike.texts_eq (h : Alike c .node j j') : (commentsAt j).map Comment.text = (commentsAt j').map Comment.text := by
  rw [commentsAt, commentsAt, List.map_filterMap, List.map_filterMap]
  exact filterMap_eq_of_forall₂ h.attached fun _ _ _ hxy => hxy.comment_text_eq

theorem Alike.retouch_comments_eq (h : Alike c .node j j') :
    c.retouch.comments (commentsAt j) = c.retouch.comments (commentsAt j') := by
  cases c with
  | tree => exact h.commentsAt_eq
  | documentation =>
    have htexts := congrArg (List.map fun text => (⟨text, 0, false⟩ : Comment)) h.texts_eq
    rwa [List.map_map, List.map_map] at htexts

theorem Alike.retouch_otherComments_eq (h : Alike c .node j j') :
    c.retouch.otherComments (commentsAt j) = c.retouch.otherComments (commentsAt j') := by
  cases c with
  | tree => exact h.commentsAt_eq
  | documentation => rfl

theorem Alike.retouch_line_eq (h : Alike c .node j j') : c.retouch.line (lineAt j) = c.retouch.line (lineAt j') := by
  cases c with
  | tree =>
    have hattributes := h.member "attributes" (by decide)
    have hline := (hattributes.field "startLine" (by simp [MayDiffer, readKeys])).int?_eq
    rw [lineAt, lineAt, hline]
  | documentation => rfl

theorem Alike.retouch_classFlags_eq (h : Alike c .node j j') :
    c.retouch.classFlags (flagsAt j) = c.retouch.classFlags (flagsAt j') := by
  cases c with
  | tree => rw [flagsAt, flagsAt, (h.field "flags" (by simp [MayDiffer, readKeys])).int?_eq]
  | documentation => rfl

/-! ### Names, types and expressions -/

theorem plainName_eq (h : Alike c .node j j') (htext : IsText (j.field "name")) : plainName j = plainName j' := by
  rw [plainName, plainName, (h.member "name" (by decide)).eq_of_isText htext]

theorem identifier_eq (h : Alike c .node j j') (htext : IsText (j.field "name")) : identifier j = identifier j' := by
  have hplain := plainName_eq h htext
  cases h with
  | str => rfl
  | _ => exact hplain

theorem qualifiedName_eq (h : Alike c .node j j') (hlegible : Place.Legible .name j) : qualifiedName j = qualifiedName j' := by
  have hparts := h.member "parts" (by decide)
  have hlist := hparts.list
  rw [Place.Legible, Place.Legible.NameLegible] at hlegible
  rw [qualifiedName, qualifiedName, h.isObject_eq, h.nodeType_eq]
  generalize j.field "parts" = parts at hparts hlist hlegible ⊢
  generalize j'.field "parts" = parts' at hparts hlist ⊢
  cases hparts with
  | @arr _ items items' hlength hitems =>
    have htexts : items.map display = items'.map display :=
      map_eq_of_forall₂ hlist fun part hpart part' halike => congrArg display (halike.eq_of_isText (hlegible part hpart))
    simp only [htexts]
  | _ => simp only [plainName_eq h hlegible]

/-- Alike types are written the same. The induction is on the size of the value, since types stand in types. -/
theorem typeName_eq (h : Alike c .node j j') (hlegible : Place.LegibleBelow .type j) : typeName j = typeName j' := by
  induction hsize : sizeOf j using Nat.strongRecOn generalizing j j' with
  | ind size ih =>
    subst hsize
    have hkind := h.nodeType_eq
    have hmembers (hholds : Place.HoldsEach .type (nodeType j) "types" .type) :
        (j.field "types").list.map typeName = (j'.field "types").list.map typeName :=
      map_eq_of_forall₂ (h.member "types" (by decide)).list fun t ht _ halike =>
        ih (sizeOf t) (sizeOf_item_lt ht) halike (hlegible.entry hholds ht) rfl
    by_cases hidentifier : nodeType j = "Identifier"
    · rw [typeName_identifier hidentifier, typeName_identifier (hkind ▸ hidentifier),
        identifier_eq h (hlegible.here.1 hidentifier)]
    by_cases hname : nodeType j ∈ ["Name", "Name_FullyQualified", "Name_Relative"]
    · rw [typeName_name hname, typeName_name (hkind ▸ hname), qualifiedName_eq h (hlegible.here.2 hname)]
    by_cases hnullable : nodeType j = "NullableType"
    · have hobject := isObject_of_nodeType hnullable (by decide)
      have hobject' : j'.isObject = true := h.isObject_eq ▸ hobject
      have hinner : typeName (j.field "type") = typeName (j'.field "type") :=
        ih _ (sizeOf_field_lt hobject) (h.member "type" (by decide)) (hlegible.member (hnullable ▸ .nullable)) rfl
      rw [typeName_nullable hobject hnullable, typeName_nullable hobject' (hkind ▸ hnullable), hinner]
    by_cases hunion : nodeType j = "UnionType"
    · rw [typeName_union hunion, typeName_union (hkind ▸ hunion), hmembers (hunion ▸ .union)]
    by_cases hintersection : nodeType j = "IntersectionType"
    · rw [typeName_intersection hintersection, typeName_intersection (hkind ▸ hintersection),
        hmembers (hintersection ▸ .intersection)]
    have hunknown : nodeType j ∉ ["Identifier", "Name", "Name_FullyQualified", "Name_Relative", "NullableType", "UnionType",
        "IntersectionType"] := by
      simp_all
    rw [typeName_unknown hunknown, typeName_unknown (hkind ▸ hunknown)]

theorem literal?_eq (h : Alike c .node j j') : literal? j = literal? j' := by
  rw [literal?, literal?, h.nodeType_eq, (h.member "value" (by decide)).ofJson?_eq]

/-- Alike expressions are read as the same. The induction is on the size of the value: a minus stands in front of another expression. -/
theorem expression_eq (h : Alike c .node j j') (hlegible : Place.LegibleBelow .expression j) : expression j = expression j' := by
  induction hsize : sizeOf j using Nat.strongRecOn generalizing j j' with
  | ind size ih =>
    subst hsize
    have hkind := h.nodeType_eq
    cases hliteral : literal? j with
    | some value => rw [expression_literal hliteral, expression_literal (literal?_eq h ▸ hliteral)]
    | none =>
      by_cases hconst : nodeType j = "Expr_ConstFetch"
      · have hname : Place.LegibleBelow .name (j.field "name") := hlegible.member (hconst ▸ .constantName)
        rw [expression_const hconst, expression_const (hkind ▸ hconst), qualifiedName_eq (h.member "name" (by decide)) hname.here]
      by_cases hminus : nodeType j = "Expr_UnaryMinus"
      · have hobject := isObject_of_nodeType hminus (by decide)
        have hobject' : j'.isObject = true := h.isObject_eq ▸ hobject
        have hinner : expression (j.field "expr") = expression (j'.field "expr") :=
          ih _ (sizeOf_field_lt hobject) (h.member "expr" (by decide)) (hlegible.member (hminus ▸ .minus)) rfl
        rw [expression_minus hobject hminus, expression_minus hobject' (hkind ▸ hminus), hinner]
      rw [expression_unknown hliteral hconst hminus,
        expression_unknown (literal?_eq h ▸ hliteral) (hkind ▸ hconst) (hkind ▸ hminus), hkind]

theorem expression?_eq (h : Alike c .node j j') (hlegible : Place.LegibleBelow .expression j) :
    expression? j = expression? j' := by
  have hexpression := expression_eq h hlegible
  cases h with
  | null => rfl
  | _ => exact congrArg some hexpression

/-! ### Declarations -/

theorem param_eq (h : Alike c .node j j') (hlegible : Place.LegibleBelow .param j) : Param.ofJson? j = Param.ofJson? j' := by
  rw [Param.ofJson?, Param.ofJson?, ← h.nodeType_eq]
  split
  · next hkind =>
    obtain ⟨hbyRef, hvariadic⟩ := hlegible.here hkind
    rw [((h.member "var" (by decide)).member "name" (by decide)).str?_eq,
      typeName_eq (h.member "type" (by decide)) (hlegible.member (hkind ▸ .paramType)),
      expression?_eq (h.member "default" (by decide)) (hlegible.member (hkind ▸ .paramDefault)),
      (h.member "byRef" (by decide)).eq_of_isSwitch hbyRef, (h.member "variadic" (by decide)).eq_of_isSwitch hvariadic]
  · rfl

theorem paramsAt_eq {place : Place} (h : Alike c .node j j') (hlegible : place.LegibleBelow j)
    (hholds : place.HoldsEach (nodeType j) "params" .param) : paramsAt (j.field "params") = paramsAt (j'.field "params") :=
  filterMap_eq_of_forall₂ (h.member "params" (by decide)).list fun _ hparam _ halike =>
    param_eq halike (hlegible.entry hholds hparam)

theorem retouch_item_eq (h : Alike c .node j j') (hlegible : Place.LegibleBelow .item j) :
    (PropertyItem.ofJson? j).map (PropertyItem.retouch c.retouch) =
      (PropertyItem.ofJson? j').map (PropertyItem.retouch c.retouch) := by
  rw [PropertyItem.ofJson?, PropertyItem.ofJson?, ← h.nodeType_eq]
  split
  · next hkind =>
    have hdefault : Place.LegibleBelow .expression (j.field "default") := by
      rcases hkind with hkind | hkind
      · exact hlegible.member (hkind ▸ .olderItemDefault)
      · exact hlegible.member (hkind ▸ .newerItemDefault)
    simp only [Option.map_some, PropertyItem.retouch, h.retouch_comments_eq,
      identifier_eq (h.member "name" (by decide)) (hlegible.here (by simpa using hkind)),
      expression?_eq (h.member "default" (by decide)) hdefault]
  · rfl

theorem retouch_other_eq (h : Alike c .node j j') :
    (Other.ofJson j).retouch c.retouch = (Other.ofJson j').retouch c.retouch := by
  simp only [Other.retouch, Other.ofJson, h.nodeType_eq, h.retouch_otherComments_eq, h.retouch_line_eq]

theorem retouch_property_eq (h : Alike c .node j j') (hlegible : Place.LegibleBelow .member j)
    (hkind : nodeType j = "Stmt_Property") :
    (Property.ofJson j).retouch c.retouch = (Property.ofJson j').retouch c.retouch := by
  have hitems : ((j.field "props").list.filterMap PropertyItem.ofJson?).map (PropertyItem.retouch c.retouch) =
      ((j'.field "props").list.filterMap PropertyItem.ofJson?).map (PropertyItem.retouch c.retouch) := by
    rw [List.map_filterMap, List.map_filterMap]
    exact filterMap_eq_of_forall₂ (h.member "props" (by decide)).list fun _ hitem _ halike =>
      retouch_item_eq halike (hlegible.entry (hkind ▸ .propertyItems) hitem)
  simp only [Property.retouch, Property.ofJson, hitems, h.flagsAt_eq (by simp [hkind]), h.retouch_comments_eq, h.retouch_line_eq,
    typeName_eq (h.member "type" (by decide)) (hlegible.member (hkind ▸ .propertyType))]

theorem retouch_method_eq (h : Alike c .node j j') (hlegible : Place.LegibleBelow .member j)
    (hkind : nodeType j = "Stmt_ClassMethod") :
    (Method.ofJson j).retouch c.retouch = (Method.ofJson j').retouch c.retouch := by
  simp only [Method.retouch, Method.ofJson, identifier_eq (h.member "name" (by decide)) (hlegible.here hkind),
    h.flagsAt_eq (by simp [hkind]), paramsAt_eq h hlegible (hkind ▸ .methodParams), h.retouch_comments_eq, h.retouch_line_eq,
    typeName_eq (h.member "returnType" (by decide)) (hlegible.member (hkind ▸ .methodType))]

theorem retouch_member_eq (h : Alike c .node j j') (hlegible : Place.LegibleBelow .member j) :
    (Member.ofJson j).retouch c.retouch = (Member.ofJson j').retouch c.retouch := by
  have hkind := h.nodeType_eq
  by_cases hproperty : nodeType j = "Stmt_Property"
  · rw [ofJson_property hproperty, ofJson_property (hkind ▸ hproperty), Member.retouch, Member.retouch,
      retouch_property_eq h hlegible hproperty]
  by_cases hmethod : nodeType j = "Stmt_ClassMethod"
  · rw [ofJson_method hmethod, ofJson_method (hkind ▸ hmethod), Member.retouch, Member.retouch,
      retouch_method_eq h hlegible hmethod]
  have hunknown : nodeType j ∉ ["Stmt_Property", "Stmt_ClassMethod"] := by simp [hproperty, hmethod]
  rw [ofJson_unknownMember hunknown, ofJson_unknownMember (hkind ▸ hunknown), Member.retouch, Member.retouch,
    retouch_other_eq h]

theorem retouch_class_eq (h : Alike c .node j j') (hlegible : Place.LegibleBelow .statement j)
    (hkind : nodeType j = "Stmt_Class") :
    (ClassDecl.ofJson j).retouch c.retouch = (ClassDecl.ofJson j').retouch c.retouch := by
  have hmembers : ((j.field "stmts").list.map Member.ofJson).map (Member.retouch c.retouch) =
      ((j'.field "stmts").list.map Member.ofJson).map (Member.retouch c.retouch) := by
    rw [List.map_map, List.map_map]
    exact map_eq_of_forall₂ (h.stmts (by simp [hkind])) fun _ hmember _ halike =>
      retouch_member_eq halike (hlegible.entry (hkind ▸ .classBody) hmember)
  simp only [ClassDecl.retouch, ClassDecl.ofJson, hmembers, h.retouch_classFlags_eq, h.retouch_comments_eq, h.retouch_line_eq,
    identifier_eq (h.member "name" (by decide)) (hlegible.here (by simp [hkind]))]

theorem retouch_function_eq (h : Alike c .node j j') (hlegible : Place.LegibleBelow .statement j)
    (hkind : nodeType j = "Stmt_Function") :
    (FunctionDecl.ofJson j).retouch c.retouch = (FunctionDecl.ofJson j').retouch c.retouch := by
  simp only [FunctionDecl.retouch, FunctionDecl.ofJson, h.retouch_comments_eq, h.retouch_line_eq,
    identifier_eq (h.member "name" (by decide)) (hlegible.here (by simp [hkind])),
    paramsAt_eq h hlegible (hkind ▸ .functionParams),
    typeName_eq (h.member "returnType" (by decide)) (hlegible.member (hkind ▸ .functionType))]

/-- **Alike statements are read as the same** once what is not compared is forgotten. The induction is on the size of the value, since namespaces hold statements. -/
theorem retouch_statement_eq (h : Alike c .node j j') (hlegible : Place.LegibleBelow .statement j) :
    (Statement.ofJson j).retouch c.retouch = (Statement.ofJson j').retouch c.retouch := by
  induction hsize : sizeOf j using Nat.strongRecOn generalizing j j' with
  | ind size ih =>
    subst hsize
    have hkind := h.nodeType_eq
    by_cases hblock : nodeType j = "Stmt_Namespace"
    · have hbody : ((j.field "stmts").list.map Statement.ofJson).map (Statement.retouch c.retouch) =
          ((j'.field "stmts").list.map Statement.ofJson).map (Statement.retouch c.retouch) := by
        rw [List.map_map, List.map_map]
        exact map_eq_of_forall₂ (h.stmts (by simp [hblock])) fun s hs _ halike =>
          ih (sizeOf s) (sizeOf_item_lt hs) halike (hlegible.entry (hblock ▸ .blockBody) hs) rfl
      have hname : Place.LegibleBelow .name (j.field "name") := hlegible.member (hblock ▸ .namespaceName)
      rw [ofJson_namespace hblock, ofJson_namespace (hkind ▸ hblock), retouch_block, retouch_block, hbody,
        qualifiedName_eq (h.member "name" (by decide)) hname.here, h.retouch_comments_eq, h.retouch_line_eq]
    by_cases hclass : nodeType j = "Stmt_Class"
    · rw [ofJson_class hclass, ofJson_class (hkind ▸ hclass), Statement.retouch, Statement.retouch,
        retouch_class_eq h hlegible hclass]
    by_cases hfunction : nodeType j = "Stmt_Function"
    · rw [ofJson_function hfunction, ofJson_function (hkind ▸ hfunction), Statement.retouch, Statement.retouch,
        retouch_function_eq h hlegible hfunction]
    have hunknown : nodeType j ∉ ["Stmt_Namespace", "Stmt_Class", "Stmt_Function"] := by simp [hblock, hclass, hfunction]
    rw [ofJson_unknown hunknown, ofJson_unknown (hkind ▸ hunknown), Statement.retouch, Statement.retouch, retouch_other_eq h]

theorem retouch_ofJson_eq {d d' : List Json} (h : Alike c .node (.arr d) (.arr d'))
    (hlegible : ∀ j ∈ d, Place.LegibleBelow .statement j) :
    (d.map Statement.ofJson).map (Statement.retouch c.retouch) = (d'.map Statement.ofJson).map (Statement.retouch c.retouch) := by
  rw [List.map_map, List.map_map]
  exact map_eq_of_forall₂ h.list fun j hj _ halike => retouch_statement_eq halike (hlegible j hj)

end ApiDoc.Syntax
