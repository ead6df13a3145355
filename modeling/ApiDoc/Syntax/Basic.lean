import ApiDoc.Number.Binary64

/-!
# Syntax trees of source files

The part of a source file that documentation can be made from: namespaces, classes with their members, functions, and the comments attached to them. What is not documented is kept by its kind, so that a tree has the shape of its file.
-/

namespace ApiDoc.Syntax

/-- A comment attached to the node after it, as it was written. -/
structure Comment where
  text : String
  line : Int
  isDoc : Bool
  deriving DecidableEq, Repr, Inhabited

inductive Scalar where
  | str (s : String)
  | int (n : Int)
  | float (x : Number.Binary64)
  | bool (b : Bool)
  deriving DecidableEq, Repr, Inhabited

/-- A default value: a literal, a constant by its name, or any other expression by its kind. -/
inductive Expr where
  | scalar (value : Scalar)
  | const (name : String)
  | other (kind : String)
  deriving DecidableEq, Repr, Inhabited

structure Param where
  name : String
  type : Option String
  default : Option Expr
  byRef : Bool
  variadic : Bool
  deriving DecidableEq, Repr, Inhabited

/-- One name declared by a property statement, with its default. -/
structure PropertyItem where
  name : String
  default : Option Expr
  comments : List Comment
  deriving DecidableEq, Repr, Inhabited

/-- A property statement; its items share flags and type. -/
structure Property where
  items : List PropertyItem
  flags : Int
  type : Option String
  comments : List Comment
  line : Int
  deriving DecidableEq, Repr, Inhabited

structure Method where
  name : String
  flags : Int
  params : List Param
  returnType : Option String
  comments : List Comment
  line : Int
  deriving DecidableEq, Repr, Inhabited

/-- A statement that is not documented, by its kind. -/
structure Other where
  kind : String
  comments : List Comment
  line : Int
  deriving DecidableEq, Repr, Inhabited

inductive Member where
  | property (p : Property)
  | method (m : Method)
  | other (o : Other)
  deriving DecidableEq, Repr, Inhabited

structure ClassDecl where
  name : String
  members : List Member
  flags : Int
  comments : List Comment
  line : Int
  deriving DecidableEq, Repr, Inhabited

structure FunctionDecl where
  name : String
  params : List Param
  returnType : Option String
  comments : List Comment
  line : Int
  deriving DecidableEq, Repr, Inhabited

/-- A statement. The name of a namespace is empty for the global one. -/
inductive Statement where
  | block (name : String) (body : List Statement) (comments : List Comment) (line : Int)
  | classDecl (c : ClassDecl)
  | functionDecl (f : FunctionDecl)
  | other (o : Other)
  deriving Inhabited

/-- The statements of a source file, and the path it was read from if there is one. -/
structure SourceTree where
  statements : List Statement
  path : Option String
  deriving Inhabited

/-- The statement that is not documented, if a member is one. -/
def Member.other? : Member → Option Other
  | .other o => some o
  | _ => none

mutual

/-- The kinds of the statements and members below a statement that are not documented, in order. -/
def Statement.otherKinds : Statement → List String
  | .block _ body _ _ => otherKindsOf body
  | .classDecl c => c.members.filterMap fun m => m.other?.map Other.kind
  | .functionDecl _ => []
  | .other o => [o.kind]

/-- The kinds of the statements and members that are not documented, in order. -/
def otherKindsOf : List Statement → List String
  | [] => []
  | s :: rest => s.otherKinds ++ otherKindsOf rest

end

end ApiDoc.Syntax
