import Mathlib.Logic.Relation
import ApiDoc.Proofs.Syntax.Dump
import ApiDoc.Record.Build

/-!
# Two generations of node shapes

A dump of the older generation and one of the newer generation are read as the same tree, also when the shapes are mixed. `Modernized` gives one node of a dump its newer shape, at a place that is read:

* a name node with its parts becomes one with the whole name;
* an item of a property statement gets its newer kind;
* a number gets its newer kind.

What is read at the place stays the same (`Modernized.read_eq`). The induction is on how deep the node stands: `Place.Holds` and `Place.HoldsEach` list the fields through which one place is read from another.
-/

namespace ApiDoc.Syntax

open Json

/-- What a value in a dump is read as. -/
inductive Place where
  | statement
  | member
  | item
  | param
  | name
  | type
  | expression
  deriving DecidableEq, Repr

/-- What comes out of reading at a place. -/
def Place.Result : Place → Type
  | .statement => Statement
  | .member => Member
  | .item => Option PropertyItem
  | .param => Option Param
  | .name => String
  | .type => Option String
  | .expression => Expr

def Place.read : (place : Place) → Json → place.Result
  | .statement => Statement.ofJson
  | .member => Member.ofJson
  | .item => PropertyItem.ofJson?
  | .param => Param.ofJson?
  | .name => qualifiedName
  | .type => typeName
  | .expression => Syntax.expression

/-- A node of a kind at a place has, under a key, a value that is read as at an inner place. -/
inductive Place.Holds : Place → String → String → Place → Prop
  | namespaceName : Holds .statement "Stmt_Namespace" "name" .name
  | functionType : Holds .statement "Stmt_Function" "returnType" .type
  | propertyType : Holds .member "Stmt_Property" "type" .type
  | methodType : Holds .member "Stmt_ClassMethod" "returnType" .type
  | olderItemDefault : Holds .item "Stmt_PropertyProperty" "default" .expression
  | newerItemDefault : Holds .item "PropertyItem" "default" .expression
  | paramType : Holds .param "Param" "type" .type
  | paramDefault : Holds .param "Param" "default" .expression
  | nullable : Holds .type "NullableType" "type" .type
  | constantName : Holds .expression "Expr_ConstFetch" "name" .name
  | minus : Holds .expression "Expr_UnaryMinus" "expr" .expression

/-- A node of a kind at a place has, under a key, a list of values that are each read as at an inner place. -/
inductive Place.HoldsEach : Place → String → String → Place → Prop
  | blockBody : HoldsEach .statement "Stmt_Namespace" "stmts" .statement
  | classBody : HoldsEach .statement "Stmt_Class" "stmts" .member
  | functionParams : HoldsEach .statement "Stmt_Function" "params" .param
  | propertyItems : HoldsEach .member "Stmt_Property" "props" .item
  | methodParams : HoldsEach .member "Stmt_ClassMethod" "params" .param
  | union : HoldsEach .type "UnionType" "types" .type
  | intersection : HoldsEach .type "IntersectionType" "types" .type

/-- The members of a name node with the whole name in place of the parts. -/
def withWholeName (parts : List String) (members : List (String × Json)) : List (String × Json) :=
  Keyed.put "name" (.str ("\\".intercalate parts)) (Keyed.without "parts" members)

inductive IsTextOrNumber : Json → Prop
  | text (s : String) : IsTextOrNumber (.str s)
  | whole (n : Int) : IsTextOrNumber (.int n)
  | fraction (x : Number.Binary64) : IsTextOrNumber (.float x)

/-- One node at a place, or somewhere below it, gets its newer shape. -/
inductive Modernized : Place → Json → Json → Prop
  /-- A name node loses its parts and gets the whole name. -/
  | name {place : Place} {members : List (String × Json)} {parts : List String} (hplace : place = .name ∨ place = .type)
      (hkind : nodeType (.obj members) ∈ ["Name", "Name_FullyQualified", "Name_Relative"])
      (hparts : Keyed.get? "parts" members = some (.arr (parts.map .str))) :
      Modernized place (.obj members) (.obj (withWholeName parts members))
  /-- An item of a property statement gets its newer kind. -/
  | item {members : List (String × Json)} (hkind : nodeType (.obj members) = "Stmt_PropertyProperty") :
      Modernized .item (.obj members) (.obj (Keyed.put "nodeType" (.str "PropertyItem") members))
  /-- A number gets its newer kind. -/
  | number {members : List (String × Json)} {older newer : String}
      (hkinds : (older, newer) ∈ [("Scalar_LNumber", "Scalar_Int"), ("Scalar_DNumber", "Scalar_Float")])
      (hkind : nodeType (.obj members) = older) (hvalue : IsTextOrNumber ((Json.obj members).field "value")) :
      Modernized .expression (.obj members) (.obj (Keyed.put "nodeType" (.str newer) members))
  /-- The node stands below a member of the object. -/
  | inMember {place inner : Place} {members : List (String × Json)} {key : String} {j j' : Json}
      (hholds : place.Holds (nodeType (.obj members)) key inner) (hget : Keyed.get? key members = some j)
      (h : Modernized inner j j') : Modernized place (.obj members) (.obj (Keyed.put key j' members))
  /-- The node stands below an entry of a list that is a member of the object. -/
  | inEntry {place inner : Place} {members : List (String × Json)} {key : String} {before after : List Json} {j j' : Json}
      (hholds : place.HoldsEach (nodeType (.obj members)) key inner)
      (hget : Keyed.get? key members = some (.arr (before ++ j :: after))) (h : Modernized inner j j') :
      Modernized place (.obj members) (.obj (Keyed.put key (.arr (before ++ j' :: after)) members))

/-- One node of a dump gets its newer shape. -/
inductive ModernizedOnce : List Json → List Json → Prop
  | statement (before after : List Json) {j j' : Json} (h : Modernized .statement j j') :
      ModernizedOnce (before ++ j :: after) (before ++ j' :: after)

/-! ### At the node itself -/

variable {members : List (String × Json)}

theorem nodeType_withWholeName (parts : List String) : nodeType (.obj (withWholeName parts members)) = nodeType (.obj members) := by
  rw [withWholeName, nodeType_put (by decide), nodeType, nodeType, field_without, if_neg (by decide)]

theorem qualifiedName_withWholeName {parts : List String} (hparts : Keyed.get? "parts" members = some (.arr (parts.map .str))) :
    qualifiedName (.obj (withWholeName parts members)) = qualifiedName (.obj members) := by
  have hdisplay : (parts.map Json.str).map display = parts := by
    rw [List.map_map]
    exact List.map_id parts
  have hlost : (Json.obj (withWholeName parts members)).field "parts" = .null := by
    rw [withWholeName, field_put, if_neg (by decide), field_without, if_pos rfl]
  have hname : (Json.obj (withWholeName parts members)).field "name" = .str ("\\".intercalate parts) := by
    rw [withWholeName, field_put, if_pos rfl]
  rw [qualifiedName, qualifiedName, nodeType_withWholeName, hlost, field_of_get? hparts]
  simp only [isObject, plainName_of_str hname, hdisplay]

theorem ofJson?_newerItem (hkind : nodeType (.obj members) = "Stmt_PropertyProperty") :
    PropertyItem.ofJson? (.obj (Keyed.put "nodeType" (.str "PropertyItem") members)) = PropertyItem.ofJson? (.obj members) := by
  have hnewer : nodeType (.obj (Keyed.put "nodeType" (.str "PropertyItem") members)) = "PropertyItem" := by
    rw [nodeType, field_put, if_pos rfl]
    rfl
  rw [PropertyItem.ofJson?, PropertyItem.ofJson?, if_pos (.inr hnewer), if_pos (.inl hkind), commentsAt_put (by decide),
    field_put, if_neg (by decide), field_put, if_neg (by decide)]

theorem exists_ofJson?_eq {j : Json} (h : IsTextOrNumber j) : ∃ value, Scalar.ofJson? j = some value := by
  cases h with
  | text s => exact ⟨_, rfl⟩
  | whole n => exact ⟨_, rfl⟩
  | fraction x => exact ⟨_, rfl⟩

theorem expression_newerNumber {newer : String} (holder : nodeType (.obj members) ∈ scalarKinds) (hnewer : newer ∈ scalarKinds)
    (hvalue : IsTextOrNumber ((Json.obj members).field "value")) :
    expression (.obj (Keyed.put "nodeType" (.str newer) members)) = expression (.obj members) := by
  obtain ⟨value, hvalue⟩ := exists_ofJson?_eq hvalue
  have hkind : nodeType (.obj (Keyed.put "nodeType" (.str newer) members)) = newer := by
    rw [nodeType, field_put, if_pos rfl]
    rfl
  have hliteral : literal? (.obj members) = some value := by
    rw [literal?, if_pos (by simpa using holder), hvalue]
  have hliteral' : literal? (.obj (Keyed.put "nodeType" (.str newer) members)) = some value := by
    rw [literal?, hkind, if_pos (by simpa using hnewer), field_put, if_neg (by decide), hvalue]
  rw [expression_literal hliteral, expression_literal hliteral']

/-! ### Below a node -/

theorem Modernized.isObject_left {place : Place} {j j' : Json} (h : Modernized place j j') : j.isObject = true := by
  cases h <;> rfl

theorem Modernized.isObject_right {place : Place} {j j' : Json} (h : Modernized place j j') : j'.isObject = true := by
  cases h <;> rfl

theorem expression?_of_isObject {j : Json} (h : j.isObject = true) : expression? j = some (expression j) := by
  cases j with
  | obj members => rfl
  | _ => simp [isObject] at h

theorem read_put_of_holds {place inner : Place} {key : String} {j j' : Json}
    (hholds : place.Holds (nodeType (.obj members)) key inner) (hfield : (Json.obj members).field key = j)
    (hj : j.isObject = true) (hj' : j'.isObject = true) (hread : inner.read j' = inner.read j) :
    place.read (.obj (Keyed.put key j' members)) = place.read (.obj members) := by
  generalize hkind : nodeType (.obj members) = kind at hholds
  cases hholds with
  | namespaceName =>
    have hname : qualifiedName j' = qualifiedName j := hread
    show Statement.ofJson _ = Statement.ofJson _
    simp [ofJson_namespace, hkind, hfield, hname]
  | functionType =>
    have htype : typeName j' = typeName j := hread
    show Statement.ofJson _ = Statement.ofJson _
    simp [ofJson_function, FunctionDecl.ofJson, hkind, hfield, htype]
  | propertyType =>
    have htype : typeName j' = typeName j := hread
    show Member.ofJson _ = Member.ofJson _
    simp [ofJson_property, Property.ofJson, hkind, hfield, htype]
  | methodType =>
    have htype : typeName j' = typeName j := hread
    show Member.ofJson _ = Member.ofJson _
    simp [ofJson_method, Method.ofJson, hkind, hfield, htype]
  | olderItemDefault =>
    have hdefault : expression j' = expression j := hread
    show PropertyItem.ofJson? _ = PropertyItem.ofJson? _
    simp [PropertyItem.ofJson?, expression?_of_isObject, hkind, hfield, hj, hj', hdefault]
  | newerItemDefault =>
    have hdefault : expression j' = expression j := hread
    show PropertyItem.ofJson? _ = PropertyItem.ofJson? _
    simp [PropertyItem.ofJson?, expression?_of_isObject, hkind, hfield, hj, hj', hdefault]
  | paramType =>
    have htype : typeName j' = typeName j := hread
    show Param.ofJson? _ = Param.ofJson? _
    simp [Param.ofJson?, hkind, hfield, htype]
  | paramDefault =>
    have hdefault : expression j' = expression j := hread
    show Param.ofJson? _ = Param.ofJson? _
    simp [Param.ofJson?, expression?_of_isObject, hkind, hfield, hj, hj', hdefault]
  | nullable =>
    have htype : typeName j' = typeName j := hread
    show typeName _ = typeName _
    rw [typeName_nullable rfl hkind, typeName_nullable rfl (by simpa using hkind)]
    simp [hfield, htype]
  | constantName =>
    have hname : qualifiedName j' = qualifiedName j := hread
    show expression _ = expression _
    simp [expression_const, hkind, hfield, hname]
  | minus =>
    have hinner : expression j' = expression j := hread
    show expression _ = expression _
    rw [expression_minus rfl hkind, expression_minus rfl (by simpa using hkind)]
    simp [hfield, hinner]

theorem read_put_of_holdsEach {place inner : Place} {key : String} {before after : List Json} {j j' : Json}
    (hholds : place.HoldsEach (nodeType (.obj members)) key inner)
    (hfield : (Json.obj members).field key = .arr (before ++ j :: after)) (hread : inner.read j' = inner.read j) :
    place.read (.obj (Keyed.put key (.arr (before ++ j' :: after)) members)) = place.read (.obj members) := by
  generalize hkind : nodeType (.obj members) = kind at hholds
  cases hholds with
  | blockBody =>
    have hstatement : Statement.ofJson j' = Statement.ofJson j := hread
    show Statement.ofJson _ = Statement.ofJson _
    simp [ofJson_namespace, list, hkind, hfield, hstatement]
  | classBody =>
    have hmember : Member.ofJson j' = Member.ofJson j := hread
    show Statement.ofJson _ = Statement.ofJson _
    simp [ofJson_class, ClassDecl.ofJson, list, hkind, hfield, hmember]
  | functionParams =>
    have hparam : Param.ofJson? j' = Param.ofJson? j := hread
    show Statement.ofJson _ = Statement.ofJson _
    simp [ofJson_function, FunctionDecl.ofJson, paramsAt, list, List.filterMap_cons, hkind, hfield, hparam]
  | propertyItems =>
    have hitem : PropertyItem.ofJson? j' = PropertyItem.ofJson? j := hread
    show Member.ofJson _ = Member.ofJson _
    simp [ofJson_property, Property.ofJson, list, List.filterMap_cons, hkind, hfield, hitem]
  | methodParams =>
    have hparam : Param.ofJson? j' = Param.ofJson? j := hread
    show Member.ofJson _ = Member.ofJson _
    simp [ofJson_method, Method.ofJson, paramsAt, list, List.filterMap_cons, hkind, hfield, hparam]
  | union =>
    have htype : typeName j' = typeName j := hread
    show typeName _ = typeName _
    simp [typeName_union, list, hkind, hfield, htype]
  | intersection =>
    have htype : typeName j' = typeName j := hread
    show typeName _ = typeName _
    simp [typeName_intersection, list, hkind, hfield, htype]

/-- **What is read at a place does not change** when a node there or below gets its newer shape. -/
theorem Modernized.read_eq {place : Place} {j j' : Json} (h : Modernized place j j') : place.read j' = place.read j := by
  induction h with
  | @name place members parts hplace hkind hparts =>
    have hname := qualifiedName_withWholeName hparts
    rcases hplace with rfl | rfl
    · exact hname
    · show typeName _ = typeName _
      rw [typeName_name hkind, typeName_name (by rwa [nodeType_withWholeName]), hname]
  | item hkind => exact ofJson?_newerItem hkind
  | number hkinds hkind hvalue =>
    simp only [List.mem_cons, Prod.mk.injEq, List.not_mem_nil, or_false] at hkinds
    rcases hkinds with ⟨rfl, rfl⟩ | ⟨rfl, rfl⟩
    · exact expression_newerNumber (by rw [hkind]; decide) (by decide) hvalue
    · exact expression_newerNumber (by rw [hkind]; decide) (by decide) hvalue
  | inMember hholds hget h ih => exact read_put_of_holds hholds (field_of_get? hget) h.isObject_left h.isObject_right ih
  | inEntry hholds hget _ ih => exact read_put_of_holdsEach hholds (field_of_get? hget) ih

theorem map_ofJson_of_modernizedOnce {d d' : List Json} (h : ModernizedOnce d d') :
    d'.map Statement.ofJson = d.map Statement.ofJson := by
  obtain ⟨before, after, h⟩ := h
  have hstatement : Statement.ofJson _ = Statement.ofJson _ := h.read_eq
  rw [List.map_append, List.map_append, List.map_cons, List.map_cons, hstatement]

theorem map_ofJson_of_reflTransGen {d d' : List Json} (h : Relation.ReflTransGen ModernizedOnce d d') :
    d'.map Statement.ofJson = d.map Statement.ofJson := by
  induction h with
  | refl => rfl
  | tail _ hstep ih => rw [map_ofJson_of_modernizedOnce hstep, ih]

/-- **Both generations are read as the same tree.** However many nodes of a dump get their newer shape, the tree stays the same, and so does the documentation under all settings. -/
theorem ofJson_eq_of_modernized {d d' : List Json} (h : Relation.ReflTransGen ModernizedOnce d d') (path : Option String) :
    ∃ t, SourceTree.ofJson path (.arr d) = .ok t ∧ SourceTree.ofJson path (.arr d') = .ok t
      ∧ ∀ settings t', SourceTree.ofJson path (.arr d') = .ok t' → Record.build settings t' = Record.build settings t := by
  have hmap := map_ofJson_of_reflTransGen h
  refine ⟨⟨d.map Statement.ofJson, path⟩, rfl, by rw [SourceTree.ofJson, hmap], ?_⟩
  intro settings t' ht'
  rw [SourceTree.ofJson, hmap] at ht'
  rw [Except.ok.inj ht']

/-- A name node of the older generation. -/
def partsNode (kind : String) (parts : List String) : Json :=
  .obj [("nodeType", .str kind), ("parts", .arr (parts.map .str))]

/-- A name node of the newer generation. -/
def wholeNameNode (kind name : String) : Json := .obj [("nodeType", .str kind), ("name", .str name)]

def minusNode (kind : String) : Json :=
  .obj [("nodeType", .str "Expr_UnaryMinus"), ("expr", .obj [("nodeType", .str kind), ("value", .int 5)])]

/-- A property statement with a nullable type and one item. -/
def propertyNode (type : Json) (itemKind : String) (default : Json) : Json :=
  .obj [("nodeType", .str "Stmt_Property"), ("type", .obj [("nodeType", .str "NullableType"), ("type", type)]),
    ("props", .arr [.obj [("nodeType", .str itemKind), ("name", .str "count"), ("default", default)]])]

def blockNode (name member : Json) : Json :=
  .obj [("nodeType", .str "Stmt_Namespace"), ("name", name),
    ("stmts", .arr [.obj [("nodeType", .str "Stmt_Class"), ("name", .str "Counter"), ("stmts", .arr [member])]])]

theorem modernizedOnce_member (name : Json) {j j' : Json} (h : Modernized .member j j') :
    ModernizedOnce [blockNode name j] [blockNode name j'] :=
  .statement [] [] (@Modernized.inEntry .statement .statement _ "stmts" [] [] _ _ .blockBody rfl
    (@Modernized.inEntry .statement .member _ "stmts" [] [] _ _ .classBody rfl h))

theorem modernized_item (type : Json) {kind kind' : String} {default default' : Json}
    (h : Modernized .item (.obj [("nodeType", .str kind), ("name", .str "count"), ("default", default)])
      (.obj [("nodeType", .str kind'), ("name", .str "count"), ("default", default')])) :
    Modernized .member (propertyNode type kind default) (propertyNode type kind' default') :=
  @Modernized.inEntry .member .item _ "props" [] [] _ _ .propertyItems rfl h

def olderDump : List Json :=
  [blockNode (partsNode "Name" ["App", "Model"])
    (propertyNode (partsNode "Name_FullyQualified" ["Money"]) "Stmt_PropertyProperty" (minusNode "Scalar_LNumber"))]

def newerDump : List Json :=
  [blockNode (wholeNameNode "Name" "App\\Model")
    (propertyNode (wholeNameNode "Name_FullyQualified" "Money") "PropertyItem" (minusNode "Scalar_Int"))]

theorem modernized_olderDump : Relation.ReflTransGen ModernizedOnce olderDump newerDump := by
  -- from the inside out: the number, the item that holds it, the type, the name of the namespace
  have hnumber : Modernized .expression (minusNode "Scalar_LNumber") (minusNode "Scalar_Int") :=
    @Modernized.inMember .expression .expression _ "expr" _ _ .minus rfl
      (@Modernized.number _ "Scalar_LNumber" "Scalar_Int" (by decide) rfl (.whole 5))
  have hdefault := modernized_item (partsNode "Name_FullyQualified" ["Money"])
    (@Modernized.inMember .item .expression _ "default" _ _ .olderItemDefault rfl hnumber)
  have hitem : Modernized .member
      (propertyNode (partsNode "Name_FullyQualified" ["Money"]) "Stmt_PropertyProperty" (minusNode "Scalar_Int"))
      (propertyNode (partsNode "Name_FullyQualified" ["Money"]) "PropertyItem" (minusNode "Scalar_Int")) :=
    modernized_item _ (.item rfl)
  have htype : Modernized .member
      (propertyNode (partsNode "Name_FullyQualified" ["Money"]) "PropertyItem" (minusNode "Scalar_Int"))
      (propertyNode (wholeNameNode "Name_FullyQualified" "Money") "PropertyItem" (minusNode "Scalar_Int")) :=
    @Modernized.inMember .member .type _ "type" _ _ .propertyType rfl
      (@Modernized.inMember .type .type _ "type" _ _ .nullable rfl
        (@Modernized.name .type _ ["Money"] (.inr rfl) (by decide) rfl))
  have hname (member : Json) : ModernizedOnce [blockNode (partsNode "Name" ["App", "Model"]) member]
      [blockNode (wholeNameNode "Name" "App\\Model") member] :=
    .statement [] [] (@Modernized.inMember .statement .name _ "name" _ _ .namespaceName rfl
      (@Modernized.name .name _ ["App", "Model"] (.inl rfl) (by decide) rfl))
  exact .tail (.tail (.tail (.tail .refl (modernizedOnce_member _ hdefault)) (modernizedOnce_member _ hitem))
    (modernizedOnce_member _ htype)) (hname _)

theorem ofJson_newerDump :
    Relation.ReflTransGen ModernizedOnce olderDump newerDump
      ∧ ∃ t, SourceTree.ofJson none (.arr olderDump) = .ok t ∧ SourceTree.ofJson none (.arr newerDump) = .ok t := by
  obtain ⟨t, holder, hnewer, -⟩ := ofJson_eq_of_modernized modernized_olderDump none
  exact ⟨modernized_olderDump, t, holder, hnewer⟩

end ApiDoc.Syntax
