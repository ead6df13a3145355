import ApiDoc.Syntax.Basic
import ApiDoc.Json.Display

/-!
# Dumps of syntax trees

A dump is the JSON form of a syntax tree that the parser of the language writes: a list of statements, each an object with its kind under `nodeType` and its place and comments under `attributes`. Two generations of node shapes are accepted, also mixed: names given as `parts` or as `name`, and the older and newer kinds of property items and numbers.

Only the outermost shape is enforced. Whatever else is missing or ill-formed gives an empty name, no type, no comment, or a statement of another kind.
-/

namespace ApiDoc.Syntax

open Json

/-! ## Attributes -/

/-- The kind of a node; empty when it has none. -/
def nodeType (j : Json) : String := (j.field "nodeType").str?.getD ""

def Comment.ofJson? (j : Json) : Option Comment :=
  (j.field "text").str?.map fun text =>
    { text := text
      line := (j.field "line").int?.getD (-1)
      isDoc := (j.field "nodeType").str? == some "Comment_Doc" }

def commentsAt (j : Json) : List Comment := ((j.field "attributes").field "comments").list.filterMap Comment.ofJson?

def lineAt (j : Json) : Int := ((j.field "attributes").field "startLine").int?.getD (-1)

/-- The modifier bits of a node. -/
def flagsAt (j : Json) : Int := (j.field "flags").int?.getD 0

/-! ## Names and types -/

/-- The text under `name`; empty when the value there does not count as true. -/
def plainName (j : Json) : String :=
  let name := j.field "name"
  if name.isTruthy then name.display else ""

/-- The name that a name node gives, its parts joined by backslashes, with a backslash in front when it is fully qualified. -/
def qualifiedName (j : Json) : String :=
  if !j.isObject then ""
  else
    let name := match j.field "parts" with
      | .arr parts => "\\".intercalate (parts.map display)
      | _ => plainName j
    if nodeType j = "Name_FullyQualified" then "\\" ++ name else name

/-- The name that an identifier gives, as a node or as a bare string. -/
def identifier (j : Json) : String :=
  match j with
  | .str s => s
  | _ => plainName j

/-- Joins the members of a type that have a text; none when no member has. -/
def joinTypes (separator : String) (members : List (Option String)) : Option String :=
  match members.filterMap fun t => t.filter fun s => !s.isEmpty with
  | [] => none
  | texts => some (separator.intercalate texts)

/-- A declared type as it is written; none when there is none. -/
def typeName (j : Json) : Option String :=
  match nodeType j with
  | "Identifier" => some (identifier j)
  | "Name" | "Name_FullyQualified" | "Name_Relative" => some (qualifiedName j)
  | "NullableType" =>
    if _h : j.isObject = true then
      match typeName (j.field "type") with
      | some inner => if inner.isEmpty then none else some ("?" ++ inner)
      | none => none
    else none
  | "UnionType" => joinTypes "|" ((j.field "types").list.attach.map fun ⟨t, _⟩ => typeName t)
  | "IntersectionType" => joinTypes "&" ((j.field "types").list.attach.map fun ⟨t, _⟩ => typeName t)
  | _ => none
termination_by sizeOf j
decreasing_by
  · exact sizeOf_field_lt (by assumption)
  · exact sizeOf_item_lt (by assumption)
  · exact sizeOf_item_lt (by assumption)

/-! ## Expressions -/

/-- The kinds of literals, of both generations. -/
def scalarKinds : List String := ["Scalar_String", "Scalar_LNumber", "Scalar_DNumber", "Scalar_Int", "Scalar_Float"]

def Scalar.ofJson? : Json → Option Scalar
  | .str s => some (.str s)
  | .int n => some (.int n)
  | .float x => some (.float x)
  | .bool b => some (.bool b)
  | _ => none

/-- The number with the opposite sign; a truth value counts as one or zero. -/
def Scalar.neg? : Scalar → Option Scalar
  | .str _ => none
  | .int n => some (.int (-n))
  | .float x => some (.float x.neg)
  | .bool b => some (.int (if b then -1 else 0))

/-- The literal of a literal node. -/
def literal? (j : Json) : Option Scalar :=
  if scalarKinds.contains (nodeType j) then Scalar.ofJson? (j.field "value") else none

def expression (j : Json) : Expr :=
  match literal? j with
  | some value => .scalar value
  | none =>
    match nodeType j with
    | "Expr_ConstFetch" => .const (qualifiedName (j.field "name"))
    | "Expr_UnaryMinus" =>
      if _h : j.isObject = true then
        match expression (j.field "expr") with
        | .scalar value => (value.neg?.map Expr.scalar).getD (.other "Expr_UnaryMinus")
        | _ => .other "Expr_UnaryMinus"
      else .other "Expr_UnaryMinus"
    | kind => .other kind
termination_by sizeOf j
decreasing_by exact sizeOf_field_lt (by assumption)

/-- Reads an expression; null means there is none. -/
def expression? : Json → Option Expr
  | .null => none
  | j => some (expression j)

/-! ## Declarations -/

def Param.ofJson? (j : Json) : Option Param :=
  if nodeType j = "Param" then
    some
      { name := ((j.field "var").field "name").str?.getD ""
        type := typeName (j.field "type")
        default := expression? (j.field "default")
        byRef := (j.field "byRef").isTruthy
        variadic := (j.field "variadic").isTruthy }
  else none

/-- Reads parameters; what is none is left out. -/
def paramsAt (j : Json) : List Param := j.list.filterMap Param.ofJson?

/-- Reads one item of a property statement, of either generation. -/
def PropertyItem.ofJson? (j : Json) : Option PropertyItem :=
  if nodeType j = "Stmt_PropertyProperty" ∨ nodeType j = "PropertyItem" then
    some { name := identifier (j.field "name"), default := expression? (j.field "default"), comments := commentsAt j }
  else none

/-- Keeps a node by its kind. -/
def Other.ofJson (j : Json) : Other := { kind := nodeType j, comments := commentsAt j, line := lineAt j }

def Property.ofJson (j : Json) : Property :=
  { items := (j.field "props").list.filterMap PropertyItem.ofJson?
    flags := flagsAt j
    type := typeName (j.field "type")
    comments := commentsAt j
    line := lineAt j }

def Method.ofJson (j : Json) : Method :=
  { name := identifier (j.field "name")
    flags := flagsAt j
    params := paramsAt (j.field "params")
    returnType := typeName (j.field "returnType")
    comments := commentsAt j
    line := lineAt j }

def Member.ofJson (j : Json) : Member :=
  match nodeType j with
  | "Stmt_Property" => .property (Property.ofJson j)
  | "Stmt_ClassMethod" => .method (Method.ofJson j)
  | _ => .other (Other.ofJson j)

def ClassDecl.ofJson (j : Json) : ClassDecl :=
  { name := identifier (j.field "name")
    members := (j.field "stmts").list.map Member.ofJson
    flags := flagsAt j
    comments := commentsAt j
    line := lineAt j }

def FunctionDecl.ofJson (j : Json) : FunctionDecl :=
  { name := identifier (j.field "name")
    params := paramsAt (j.field "params")
    returnType := typeName (j.field "returnType")
    comments := commentsAt j
    line := lineAt j }

def Statement.ofJson (j : Json) : Statement :=
  match nodeType j with
  | "Stmt_Namespace" =>
    .block (qualifiedName (j.field "name")) ((j.field "stmts").list.attach.map fun ⟨s, _⟩ => Statement.ofJson s) (commentsAt j) (lineAt j)
  | "Stmt_Class" => .classDecl (ClassDecl.ofJson j)
  | "Stmt_Function" => .functionDecl (FunctionDecl.ofJson j)
  | _ => .other (Other.ofJson j)
termination_by sizeOf j
decreasing_by exact sizeOf_item_lt (by assumption)

/-- A dump that is no list of statements, by what it is called. -/
structure NotAList where
  kind : String
  deriving DecidableEq, Repr, Inhabited

def NotAList.message (e : NotAList) : String := "Expected a list of statements, got " ++ e.kind

def SourceTree.ofJson (path : Option String) : Json → Except NotAList SourceTree
  | .arr statements => .ok ⟨statements.map Statement.ofJson, path⟩
  | j => .error ⟨j.kindName⟩

end ApiDoc.Syntax
