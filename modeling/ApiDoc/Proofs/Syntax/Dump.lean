import Mathlib.Data.List.Basic
import ApiDoc.Syntax.Dump

/-!
# What the nodes of a dump are read as

One equation for each kind of node: the fields it is read from, and how.

* `field_put` and `field_without` tell what is found in an object after a member was written or taken away; a node keeps its kind, comments, line and flags when another member changes (`nodeType_put` and the like).
* `ofJson_namespace`, `ofJson_class`, `ofJson_function`, `ofJson_property`, `ofJson_method` read statements and members, `ofJson_unknown` and `ofJson_unknownMember` those of other kinds.
* `typeName_identifier`, `typeName_name`, `typeName_nullable`, `typeName_union`, `typeName_intersection`, `typeName_unknown` read types, with `joinTypes_eq` for those of several members, `expression_literal`, `expression_const`, `expression_minus`, `expression_unknown` expressions.
-/

namespace ApiDoc

namespace Keyed

variable {α : Type}

def without (key : String) (m : Keyed α) : Keyed α := m.filter fun e => e.1 != key

theorem get?_without (key other : String) (m : Keyed α) :
    get? other (without key m) = if key = other then none else get? other m := by
  induction m with
  | nil => simp [without]
  | cons e rest ih =>
    obtain ⟨k, v⟩ := e
    rw [without] at ih ⊢
    by_cases hk : k = key
    · subst hk
      by_cases ho : k = other
      · subst ho
        simpa using ih
      · simp [get?, ho, ih]
    · by_cases ho : k = other
      · subst ho
        simp [get?, hk, Ne.symm hk]
      · simp [get?, hk, ho, ih]

end Keyed

namespace Syntax

open Json

/-! ### Fields of an object -/

section Fields

variable {key : String} {members : List (String × Json)} {value : Json}

theorem field_of_get? (h : Keyed.get? key members = some value) : (Json.obj members).field key = value := by
  simp [field, h]

@[simp] theorem field_put (key other : String) (value : Json) (members : List (String × Json)) :
    (Json.obj (Keyed.put key value members)).field other = if key = other then value else (Json.obj members).field other := by
  rw [field, field, Keyed.get?_put]
  split <;> rfl

@[simp] theorem field_without (key other : String) (members : List (String × Json)) :
    (Json.obj (Keyed.without key members)).field other = if key = other then .null else (Json.obj members).field other := by
  rw [field, field, Keyed.get?_without]
  split <;> rfl

@[simp] theorem nodeType_put (h : key ≠ "nodeType") : nodeType (.obj (Keyed.put key value members)) = nodeType (.obj members) := by
  rw [nodeType, nodeType, field_put, if_neg h]

@[simp] theorem commentsAt_put (h : key ≠ "attributes") :
    commentsAt (.obj (Keyed.put key value members)) = commentsAt (.obj members) := by
  rw [commentsAt, commentsAt, field_put, if_neg h]

@[simp] theorem lineAt_put (h : key ≠ "attributes") : lineAt (.obj (Keyed.put key value members)) = lineAt (.obj members) := by
  rw [lineAt, lineAt, field_put, if_neg h]

@[simp] theorem flagsAt_put (h : key ≠ "flags") : flagsAt (.obj (Keyed.put key value members)) = flagsAt (.obj members) := by
  rw [flagsAt, flagsAt, field_put, if_neg h]

end Fields

variable {j : Json}

theorem isObject_of_nodeType {kind : String} (h : nodeType j = kind) (hkind : kind ≠ "") : j.isObject = true := by
  cases j with
  | obj members => rfl
  | _ => exact absurd h.symm hkind

/-! ### Statements and members -/

theorem ofJson_namespace (h : nodeType j = "Stmt_Namespace") :
    Statement.ofJson j =
      .block (qualifiedName (j.field "name")) ((j.field "stmts").list.map Statement.ofJson) (commentsAt j) (lineAt j) := by
  rw [Statement.ofJson, h]
  simp

theorem ofJson_class (h : nodeType j = "Stmt_Class") : Statement.ofJson j = .classDecl (ClassDecl.ofJson j) := by
  rw [Statement.ofJson, h]
  rfl

theorem ofJson_function (h : nodeType j = "Stmt_Function") : Statement.ofJson j = .functionDecl (FunctionDecl.ofJson j) := by
  rw [Statement.ofJson, h]
  rfl

theorem ofJson_unknown (h : nodeType j ∉ ["Stmt_Namespace", "Stmt_Class", "Stmt_Function"]) :
    Statement.ofJson j = .other (Other.ofJson j) := by
  simp only [List.mem_cons, List.not_mem_nil, or_false, not_or] at h
  obtain ⟨hblock, hclass, hfunction⟩ := h
  rw [Statement.ofJson]
  split
  · contradiction
  · contradiction
  · contradiction
  · rfl

theorem ofJson_property (h : nodeType j = "Stmt_Property") : Member.ofJson j = .property (Property.ofJson j) := by
  rw [Member.ofJson, h]
  rfl

theorem ofJson_method (h : nodeType j = "Stmt_ClassMethod") : Member.ofJson j = .method (Method.ofJson j) := by
  rw [Member.ofJson, h]
  rfl

theorem ofJson_unknownMember (h : nodeType j ∉ ["Stmt_Property", "Stmt_ClassMethod"]) :
    Member.ofJson j = .other (Other.ofJson j) := by
  simp only [List.mem_cons, List.not_mem_nil, or_false, not_or] at h
  obtain ⟨hproperty, hmethod⟩ := h
  rw [Member.ofJson]
  split
  · contradiction
  · contradiction
  · rfl

/-! ### Names and types -/

theorem plainName_of_str {s : String} (h : j.field "name" = .str s) : plainName j = s := by
  by_cases hs : s = "" <;> simp [plainName, h, isTruthy, display, hs]

theorem typeName_name (h : nodeType j ∈ ["Name", "Name_FullyQualified", "Name_Relative"]) :
    typeName j = some (qualifiedName j) := by
  simp only [List.mem_cons, List.not_mem_nil, or_false] at h
  rw [typeName]
  rcases h with h | h | h
  · rw [h]
    rfl
  · rw [h]
    rfl
  · rw [h]
    rfl

theorem typeName_identifier (h : nodeType j = "Identifier") : typeName j = some (identifier j) := by
  rw [typeName, h]
  rfl

theorem typeName_nullable (hj : j.isObject = true) (h : nodeType j = "NullableType") :
    typeName j = (typeName (j.field "type")).bind fun inner => if inner.isEmpty then none else some ("?" ++ inner) := by
  rw [typeName, h]
  simp only [hj, ↓reduceDIte]
  cases typeName (j.field "type") <;> rfl

theorem typeName_union (h : nodeType j = "UnionType") :
    typeName j = joinTypes "|" ((j.field "types").list.map typeName) := by
  rw [typeName, h]
  simp

theorem typeName_intersection (h : nodeType j = "IntersectionType") :
    typeName j = joinTypes "&" ((j.field "types").list.map typeName) := by
  rw [typeName, h]
  simp

theorem typeName_unknown (h : nodeType j ∉ ["Identifier", "Name", "Name_FullyQualified", "Name_Relative", "NullableType",
    "UnionType", "IntersectionType"]) : typeName j = none := by
  simp only [List.mem_cons, List.not_mem_nil, or_false, not_or] at h
  obtain ⟨hidentifier, hname, hfull, hrelative, hnullable, hunion, hintersection⟩ := h
  rw [typeName]
  split <;> first | contradiction | rfl

def textsOf (members : List (Option String)) : List String := members.filterMap fun t => t.filter fun s => !s.isEmpty

@[simp] theorem textsOf_cons_none (members : List (Option String)) : textsOf (none :: members) = textsOf members := rfl

@[simp] theorem textsOf_cons_some (text : String) (members : List (Option String)) :
    textsOf (some text :: members) = if text = "" then textsOf members else text :: textsOf members := by
  by_cases h : text = "" <;> simp [textsOf, Option.filter, h]

theorem joinTypes_eq (separator : String) (members : List (Option String)) :
    joinTypes separator members = if textsOf members = [] then none else some (separator.intercalate (textsOf members)) := by
  rw [joinTypes, ← textsOf]
  cases textsOf members with
  | nil => rfl
  | cons text rest => rfl

/-! ### Expressions -/

theorem expression_literal {value : Scalar} (h : literal? j = some value) : expression j = .scalar value := by
  rw [expression, h]

theorem expression_const (h : nodeType j = "Expr_ConstFetch") : expression j = .const (qualifiedName (j.field "name")) := by
  have hliteral : literal? j = none := by simp [literal?, h, scalarKinds]
  rw [expression, hliteral, h]
  rfl

/-- What a minus makes of an expression: a number with the opposite sign, or something unknown. -/
def negated : Expr → Expr
  | .scalar value => (value.neg?.map Expr.scalar).getD (.other "Expr_UnaryMinus")
  | _ => .other "Expr_UnaryMinus"

theorem expression_minus (hj : j.isObject = true) (h : nodeType j = "Expr_UnaryMinus") :
    expression j = negated (expression (j.field "expr")) := by
  have hliteral : literal? j = none := by simp [literal?, h, scalarKinds]
  rw [expression, hliteral, h]
  simp only [hj, ↓reduceDIte]
  cases expression (j.field "expr") <;> rfl

theorem expression_unknown (hliteral : literal? j = none) (hconst : nodeType j ≠ "Expr_ConstFetch")
    (hminus : nodeType j ≠ "Expr_UnaryMinus") : expression j = .other (nodeType j) := by
  rw [expression, hliteral]
  dsimp only
  split
  · contradiction
  · contradiction
  · rfl

end Syntax

end ApiDoc
