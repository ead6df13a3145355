import Mathlib.Algebra.GroupWithZero.Nat
import ApiDoc.Proofs.Syntax.TypeLeaves

/-!
# Declared types as they are written

A declared type is an identifier or a name, such a type with a question mark in front, or several types joined by `&` or `|`. What its node is rendered as is the spelling in the source without two marks: the word in front of a relative name, and the parentheses around an intersection that stands in a union. So exactly the types that have neither are rendered as they are written (`typeName_eq_source_iff`).

The spelling and the rendering are one text with and without these marks (`DeclaredType.text`). Where a type has one of them, the spelling is longer by it (`DeclaredType.length_text`).
-/

namespace ApiDoc.Syntax

open Json

/-! ### Types of the source -/

inductive NameForm where
  /-- From the imports and the namespace of the file, with or without qualification. -/
  | plain
  /-- From the global namespace. -/
  | full
  /-- From the namespace of the file. -/
  | relative
  deriving DecidableEq, Repr

/-- A name by the parts between its backslashes. -/
structure SourceName where
  form : NameForm
  parts : List String
  parts_ne_nil : parts ≠ []
  part_ne_empty : ∀ part ∈ parts, part ≠ ""

inductive SimpleType where
  | identifier (text : String) (text_ne_empty : text ≠ "")
  | name (n : SourceName)

structure Intersection where
  members : List SimpleType
  members_ne_nil : members ≠ []

inductive UnionMember where
  | simple (s : SimpleType)
  | group (i : Intersection)

/-- A type as it can be declared. -/
inductive DeclaredType where
  | simple (s : SimpleType)
  | nullable (s : SimpleType)
  | union (members : List UnionMember) (members_ne_nil : members ≠ [])
  | intersection (i : Intersection)

/-! ### How types are written -/

/-- The marks that a rendering may leave out: what stands in front of a relative name, and the parentheses around a group. -/
structure Marks where
  relative : String
  opening : String
  closing : String

def Marks.source : Marks := ⟨"namespace\\", "(", ")"⟩

def Marks.none : Marks := ⟨"", "", ""⟩

def NameForm.text (m : Marks) : NameForm → String
  | .plain => ""
  | .full => "\\"
  | .relative => m.relative

def SourceName.path (n : SourceName) : String := "\\".intercalate n.parts

def SimpleType.text (m : Marks) : SimpleType → String
  | .identifier text _ => text
  | .name n => n.form.text m ++ n.path

def Intersection.text (m : Marks) (i : Intersection) : String := "&".intercalate (i.members.map (SimpleType.text m))

def UnionMember.text (m : Marks) : UnionMember → String
  | .simple s => s.text m
  | .group i => m.opening ++ i.text m ++ m.closing

/-- A type as it is written with some marks. -/
def DeclaredType.text (m : Marks) : DeclaredType → String
  | .simple s => s.text m
  | .nullable s => "?" ++ s.text m
  | .union members _ => "|".intercalate (members.map (UnionMember.text m))
  | .intersection i => i.text m

/-! ### Nodes of types -/

def NameForm.kind : NameForm → String
  | .plain => "Name"
  | .full => "Name_FullyQualified"
  | .relative => "Name_Relative"

/-- A node that a name is dumped as, of either generation. -/
inductive SourceName.Dumped (n : SourceName) (j : Json) : Prop
  | older (hkind : nodeType j = n.form.kind) (hparts : j.field "parts" = .arr (n.parts.map .str))
  | newer (hkind : nodeType j = n.form.kind) (hparts : j.field "parts" = .null) (hname : j.field "name" = .str n.path)

inductive SimpleType.Dumped : SimpleType → Json → Prop
  | identifier {text : String} (text_ne_empty : text ≠ "") {j : Json} (hkind : nodeType j = "Identifier")
      (hname : j.field "name" = .str text) : Dumped (.identifier text text_ne_empty) j
  | name {n : SourceName} {j : Json} (h : n.Dumped j) : Dumped (.name n) j

inductive Intersection.Dumped (i : Intersection) (j : Json) : Prop
  | mk {items : List Json} (hkind : nodeType j = "IntersectionType") (htypes : j.field "types" = .arr items)
      (hitems : List.Forall₂ SimpleType.Dumped i.members items)

inductive UnionMember.Dumped : UnionMember → Json → Prop
  | simple {s : SimpleType} {j : Json} (h : s.Dumped j) : Dumped (.simple s) j
  | group {i : Intersection} {j : Json} (h : i.Dumped j) : Dumped (.group i) j

/-- A node that a type is dumped as; the generations may be mixed. -/
inductive DeclaredType.Dumped : DeclaredType → Json → Prop
  | simple {s : SimpleType} {j : Json} (h : s.Dumped j) : Dumped (.simple s) j
  | nullable {s : SimpleType} {j : Json} (hkind : nodeType j = "NullableType") (h : s.Dumped (j.field "type")) :
      Dumped (.nullable s) j
  | union {members : List UnionMember} (members_ne_nil : members ≠ []) {j : Json} {items : List Json}
      (hkind : nodeType j = "UnionType") (htypes : j.field "types" = .arr items)
      (hitems : List.Forall₂ UnionMember.Dumped members items) : Dumped (.union members members_ne_nil) j
  | intersection {i : Intersection} {j : Json} (h : i.Dumped j) : Dumped (.intersection i) j

/-! ### Types have a text -/

theorem SimpleType.text_ne_empty (m : Marks) (s : SimpleType) : s.text m ≠ "" := by
  cases s with
  | identifier text h => exact h
  | name n =>
    have hpath : n.path ≠ "" := intercalate_ne_empty n.parts_ne_nil n.part_ne_empty
    simp [SimpleType.text, hpath]

theorem Intersection.text_ne_empty (m : Marks) (i : Intersection) : i.text m ≠ "" := by
  refine intercalate_ne_empty (by simpa using i.members_ne_nil) fun text htext => ?_
  obtain ⟨s, -, rfl⟩ := List.mem_map.mp htext
  exact s.text_ne_empty m

theorem UnionMember.text_ne_empty (m : Marks) (u : UnionMember) : u.text m ≠ "" := by
  cases u with
  | simple s => exact s.text_ne_empty m
  | group i => simp [UnionMember.text, i.text_ne_empty m]

/-! ### What nodes are rendered as -/

theorem textsOf_map_some {texts : List String} (h : ∀ text ∈ texts, text ≠ "") : textsOf (texts.map some) = texts := by
  induction texts with
  | nil => rfl
  | cons text rest ih =>
    rw [List.forall_mem_cons] at h
    rw [List.map_cons, textsOf_cons_some, if_neg h.1, ih h.2]

theorem joinTypes_of_forall₂ {α : Type} {Dumped : α → Json → Prop} {text : α → String} {members : List α} {items : List Json}
    (h : List.Forall₂ Dumped members items) (htext : ∀ x j, Dumped x j → typeName j = some (text x)) (hne : ∀ x, text x ≠ "")
    (hmembers : members ≠ []) (separator : String) :
    joinTypes separator (items.map typeName) = some (separator.intercalate (members.map text)) := by
  have hitems : items.map typeName = (members.map text).map some := by
    clear hmembers
    induction h with
    | nil => rfl
    | cons hdumped _ ih => rw [List.map_cons, List.map_cons, List.map_cons, htext _ _ hdumped, ih]
  have htexts : textsOf ((members.map text).map some) = members.map text := by
    refine textsOf_map_some fun s hs => ?_
    obtain ⟨x, -, rfl⟩ := List.mem_map.mp hs
    exact hne x
  rw [hitems, joinTypes_eq, htexts, if_neg (by simpa using hmembers)]

theorem qualifiedName_of_dumped {n : SourceName} {j : Json} (h : n.Dumped j) :
    qualifiedName j = n.form.text .none ++ n.path := by
  have hdisplay : (n.parts.map Json.str).map display = n.parts := by
    rw [List.map_map]
    exact List.map_id n.parts
  cases h with
  | older hkind hparts =>
    have hobject : j.isObject = true := isObject_of_nodeType hkind (by cases n.form <;> decide)
    rw [qualifiedName, hobject, hparts, hkind]
    cases n.form <;> simp [hdisplay, NameForm.text, NameForm.kind, Marks.none, SourceName.path]
  | newer hkind hparts hname =>
    have hobject : j.isObject = true := isObject_of_nodeType hkind (by cases n.form <;> decide)
    rw [qualifiedName, hobject, hparts, hkind, plainName_of_str hname]
    cases n.form <;> simp [NameForm.text, NameForm.kind, Marks.none]

theorem typeName_of_dumpedName {n : SourceName} {j : Json} (h : n.Dumped j) : typeName j = some (n.form.text .none ++ n.path) := by
  have hkind : nodeType j = n.form.kind := by cases h <;> assumption
  have hname : n.form.kind ∈ ["Name", "Name_FullyQualified", "Name_Relative"] := by cases n.form <;> decide
  rw [typeName_name (hkind ▸ hname), qualifiedName_of_dumped h]

theorem identifier_of_node {j : Json} {text : String} (hkind : nodeType j = "Identifier") (hname : j.field "name" = .str text) :
    identifier j = text := by
  cases j with
  | str s => cases hname
  | _ => exact plainName_of_str hname

theorem SimpleType.typeName_of_dumped {s : SimpleType} {j : Json} (h : s.Dumped j) : typeName j = some (s.text .none) := by
  cases h with
  | identifier _ hkind hname =>
    rw [typeName_identifier hkind, identifier_of_node hkind hname]
    rfl
  | name h => exact typeName_of_dumpedName h

theorem Intersection.typeName_of_dumped {i : Intersection} {j : Json} (h : i.Dumped j) : typeName j = some (i.text .none) := by
  obtain ⟨hkind, htypes, hitems⟩ := h
  rw [typeName_intersection hkind, htypes]
  exact joinTypes_of_forall₂ hitems (fun _ _ => SimpleType.typeName_of_dumped) (SimpleType.text_ne_empty .none) i.members_ne_nil "&"

theorem UnionMember.typeName_of_dumped {u : UnionMember} {j : Json} (h : u.Dumped j) : typeName j = some (u.text .none) := by
  cases h with
  | simple h => exact SimpleType.typeName_of_dumped h
  | group h =>
    rw [Intersection.typeName_of_dumped h]
    simp [UnionMember.text, Marks.none]

theorem DeclaredType.typeName_of_dumped {t : DeclaredType} {j : Json} (h : t.Dumped j) : typeName j = some (t.text .none) := by
  cases h with
  | simple h => exact SimpleType.typeName_of_dumped h
  | @nullable s j hkind h =>
    have hne := s.text_ne_empty .none
    rw [typeName_nullable (isObject_of_nodeType hkind (by decide)) hkind, SimpleType.typeName_of_dumped h]
    simp [DeclaredType.text, hne]
  | union members_ne_nil hkind htypes hitems =>
    rw [typeName_union hkind, htypes]
    exact joinTypes_of_forall₂ hitems (fun _ _ => UnionMember.typeName_of_dumped) (UnionMember.text_ne_empty .none) members_ne_nil "|"
  | intersection h => exact Intersection.typeName_of_dumped h

/-! ### What the marks add -/

def SimpleType.IsRelative : SimpleType → Prop
  | .identifier _ _ => False
  | .name n => n.form = .relative

def UnionMember.simpleTypes : UnionMember → List SimpleType
  | .simple s => [s]
  | .group i => i.members

def UnionMember.group? : UnionMember → Option Intersection
  | .simple _ => none
  | .group i => some i

def DeclaredType.simpleTypes : DeclaredType → List SimpleType
  | .simple s => [s]
  | .nullable s => [s]
  | .union members _ => members.flatMap UnionMember.simpleTypes
  | .intersection i => i.members

/-- The intersections that stand in a union. -/
def DeclaredType.groups : DeclaredType → List Intersection
  | .union members _ => members.filterMap UnionMember.group?
  | _ => []

/-- How many characters the marks of the source add. -/
def NameForm.marked : NameForm → Nat
  | .relative => 10
  | _ => 0

def SimpleType.marked : SimpleType → Nat
  | .identifier _ _ => 0
  | .name n => n.form.marked

def Intersection.marked (i : Intersection) : Nat := (i.members.map SimpleType.marked).sum

def UnionMember.marked : UnionMember → Nat
  | .simple s => s.marked
  | .group i => i.marked + 2

def DeclaredType.marked : DeclaredType → Nat
  | .simple s => s.marked
  | .nullable s => s.marked
  | .union members _ => (members.map UnionMember.marked).sum
  | .intersection i => i.marked

theorem length_intercalate {α : Type} {longer shorter : α → String} {added : α → Nat}
    (h : ∀ x, (longer x).length = (shorter x).length + added x) (separator : String) (xs : List α) :
    (separator.intercalate (xs.map longer)).length = (separator.intercalate (xs.map shorter)).length + (xs.map added).sum := by
  induction xs with
  | nil => rfl
  | cons x rest ih =>
    cases rest with
    | nil => simpa using h x
    | cons y rest =>
      simp only [List.map_cons, String.intercalate_cons_cons, String.length_append, List.sum_cons, h x] at ih ⊢
      omega

theorem SimpleType.length_text (s : SimpleType) : (s.text .source).length = (s.text .none).length + s.marked := by
  cases s with
  | identifier text _ => rfl
  | name n =>
    have hform : (n.form.text .source).length = (n.form.text .none).length + n.form.marked := by cases n.form <;> rfl
    simp only [SimpleType.text, SimpleType.marked, String.length_append, hform]
    omega

theorem Intersection.length_text (i : Intersection) : (i.text .source).length = (i.text .none).length + i.marked :=
  length_intercalate SimpleType.length_text "&" i.members

theorem UnionMember.length_text (u : UnionMember) : (u.text .source).length = (u.text .none).length + u.marked := by
  cases u with
  | simple s => exact s.length_text
  | group i =>
    have hi := i.length_text
    simp only [UnionMember.text, UnionMember.marked, Marks.source, Marks.none, String.length_append, String.length_empty] at hi ⊢
    have hopening : "(".length = 1 := rfl
    have hclosing : ")".length = 1 := rfl
    omega

theorem DeclaredType.length_text (t : DeclaredType) : (t.text .source).length = (t.text .none).length + t.marked := by
  cases t with
  | simple s => exact s.length_text
  | nullable s =>
    have hs := s.length_text
    simp only [DeclaredType.text, DeclaredType.marked, String.length_append]
    omega
  | union members _ => exact length_intercalate UnionMember.length_text "|" members
  | intersection i => exact i.length_text

/-! ### Types without marks -/

theorem sum_map_eq_zero_iff {α : Type} {added : α → Nat} {xs : List α} : (xs.map added).sum = 0 ↔ ∀ x ∈ xs, added x = 0 := by
  rw [List.sum_eq_zero_iff_forall_eq_nat, List.forall_mem_map]

theorem SimpleType.text_eq_of_marked {s : SimpleType} (h : s.marked = 0) : s.text .source = s.text .none := by
  cases s with
  | identifier text _ => rfl
  | name n =>
    have hform : n.form.text .source = n.form.text .none := by
      rw [SimpleType.marked] at h
      cases hn : n.form with
      | relative => simp [hn, NameForm.marked] at h
      | plain => rfl
      | full => rfl
    rw [SimpleType.text, SimpleType.text, hform]

theorem Intersection.text_eq_of_marked {i : Intersection} (h : i.marked = 0) : i.text .source = i.text .none := by
  rw [Intersection.marked, sum_map_eq_zero_iff] at h
  rw [Intersection.text, Intersection.text, List.map_congr_left fun s hs => SimpleType.text_eq_of_marked (h s hs)]

theorem UnionMember.text_eq_of_marked {u : UnionMember} (h : u.marked = 0) : u.text .source = u.text .none := by
  cases u with
  | simple s => exact SimpleType.text_eq_of_marked h
  | group i => simp [UnionMember.marked] at h

theorem DeclaredType.text_eq_of_marked {t : DeclaredType} (h : t.marked = 0) : t.text .source = t.text .none := by
  cases t with
  | simple s => exact SimpleType.text_eq_of_marked h
  | nullable s => exact congrArg ("?" ++ ·) (SimpleType.text_eq_of_marked h)
  | union members _ =>
    rw [DeclaredType.marked, sum_map_eq_zero_iff] at h
    rw [DeclaredType.text, DeclaredType.text, List.map_congr_left fun u hu => UnionMember.text_eq_of_marked (h u hu)]
  | intersection i => exact Intersection.text_eq_of_marked h

/-- The marks of the source make a difference exactly where they add characters. -/
theorem DeclaredType.text_eq_iff {t : DeclaredType} : t.text .source = t.text .none ↔ t.marked = 0 := by
  refine ⟨fun h => ?_, text_eq_of_marked⟩
  have hlength := t.length_text
  rw [h] at hlength
  omega

theorem SimpleType.marked_eq_zero_iff {s : SimpleType} : s.marked = 0 ↔ ¬ s.IsRelative := by
  cases s with
  | identifier text _ => simp [SimpleType.marked, SimpleType.IsRelative]
  | name n =>
    rw [SimpleType.marked, SimpleType.IsRelative]
    cases n.form <;> simp [NameForm.marked]

theorem Intersection.marked_eq_zero_iff {i : Intersection} : i.marked = 0 ↔ ∀ s ∈ i.members, ¬ s.IsRelative := by
  rw [Intersection.marked, sum_map_eq_zero_iff]
  exact forall₂_congr fun _ _ => SimpleType.marked_eq_zero_iff

theorem UnionMember.marked_eq_zero_iff {u : UnionMember} :
    u.marked = 0 ↔ (∀ s ∈ u.simpleTypes, ¬ s.IsRelative) ∧ u.group? = none := by
  cases u with
  | simple s => simp [UnionMember.marked, UnionMember.simpleTypes, UnionMember.group?, SimpleType.marked_eq_zero_iff]
  | group i => simp [UnionMember.marked, UnionMember.group?]

theorem DeclaredType.marked_eq_zero_iff {t : DeclaredType} :
    t.marked = 0 ↔ (∀ s ∈ t.simpleTypes, ¬ s.IsRelative) ∧ t.groups = [] := by
  cases t with
  | simple s => simp [DeclaredType.marked, DeclaredType.simpleTypes, DeclaredType.groups, SimpleType.marked_eq_zero_iff]
  | nullable s => simp [DeclaredType.marked, DeclaredType.simpleTypes, DeclaredType.groups, SimpleType.marked_eq_zero_iff]
  | union members _ =>
    rw [DeclaredType.marked, sum_map_eq_zero_iff, DeclaredType.simpleTypes, DeclaredType.groups, List.filterMap_eq_nil_iff,
      List.forall_mem_flatMap, ← forall₂_and]
    exact forall₂_congr fun _ _ => UnionMember.marked_eq_zero_iff
  | intersection i =>
    rw [DeclaredType.marked, Intersection.marked_eq_zero_iff]
    simp [DeclaredType.simpleTypes, DeclaredType.groups]

/-- **Which types are rendered as they are written.** -/
theorem typeName_eq_source_iff {t : DeclaredType} {j : Json} (h : t.Dumped j) :
    typeName j = some (t.text .none)
      ∧ (typeName j = some (t.text .source) ↔ (∀ s ∈ t.simpleTypes, ¬ s.IsRelative) ∧ t.groups = []) := by
  have hname := DeclaredType.typeName_of_dumped h
  refine ⟨hname, ?_⟩
  rw [hname, Option.some_inj, eq_comm, DeclaredType.text_eq_iff, DeclaredType.marked_eq_zero_iff]

def partName (form : NameForm) (part : String) (h : part ≠ "") : SourceName where
  form := form
  parts := [part]
  parts_ne_nil := List.cons_ne_nil _ _
  part_ne_empty := by simpa using h

/-- An intersection of two names, one of them from the global namespace. -/
def bothTypes : Intersection where
  members := [.name (partName .plain "A" (by decide)), .name (partName .full "B" (by decide))]
  members_ne_nil := List.cons_ne_nil _ _

/-- A union of an intersection, a relative name and an identifier. -/
def groupedType : DeclaredType :=
  .union [.group bothTypes, .simple (.name (partName .relative "C" (by decide))), .simple (.identifier "null" (by decide))]
    (List.cons_ne_nil _ _)

/-- Its node, with names of both generations. -/
def groupedNode : Json :=
  membersNode "UnionType"
    [membersNode "IntersectionType" [partsNode "Name" ["A"], wholeNameNode "Name_FullyQualified" "B"],
      partsNode "Name_Relative" ["C"], wholeNameNode "Identifier" "null"]

theorem dumped_groupedNode : groupedType.Dumped groupedNode := by
  have hboth : bothTypes.Dumped (membersNode "IntersectionType" [partsNode "Name" ["A"], wholeNameNode "Name_FullyQualified" "B"]) :=
    .mk rfl rfl (.cons (.name (.older rfl rfl)) (.cons (.name (.newer rfl rfl rfl)) .nil))
  exact .union _ rfl rfl (.cons (.group hboth)
    (.cons (.simple (.name (.older rfl rfl))) (.cons (.simple (.identifier _ rfl rfl)) .nil)))

theorem typeName_groupedNode :
    groupedType.Dumped groupedNode ∧ groupedType.text .source = "(A&\\B)|namespace\\C|null"
      ∧ typeName groupedNode = some "A&\\B|C|null" := by
  have htext : groupedType.text .none = "A&\\B|C|null" := by decide
  exact ⟨dumped_groupedNode, by decide, htext ▸ (typeName_eq_source_iff dumped_groupedNode).1⟩

theorem not_always_as_written : ¬ ∀ (t : DeclaredType) (j : Json), t.Dumped j → typeName j = some (t.text .source) := by
  intro h
  have hwritten := h groupedType groupedNode dumped_groupedNode
  exact absurd hwritten (by decide +kernel)

end ApiDoc.Syntax
