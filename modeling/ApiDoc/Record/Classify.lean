import ApiDoc.Syntax.Basic

/-!
# Declarations to document

Which declarations of a source file are documented. A file that starts with a namespace, after directives and text outside the code, is scanned block by block; any other file is one block without a name. If a block holds a class directly, the classes are documented; otherwise the functions are.
-/

namespace ApiDoc.Record

open Syntax

/-- The kinds of statements that may stand before the first namespace. -/
def preludeKinds : List String := ["Stmt_Declare", "Stmt_InlineHTML"]

/-- A statement that says nothing about the structure of a file. -/
def isPrelude : Statement → Bool
  | .other o => preludeKinds.contains o.kind
  | _ => false

/-- A class and the name of the block it stands in. -/
structure ScopedClass where
  namespaceName : String
  decl : ClassDecl
  deriving DecidableEq, Repr, Inhabited

/-- The declarations to document. There are no functions when there is a class. -/
structure Classification where
  /-- The name of the first namespace. -/
  namespaceName : String
  /-- The comments attached to the first namespace. -/
  comments : List Comment
  classes : List ScopedClass
  functions : List FunctionDecl
  deriving DecidableEq, Repr, Inhabited

/-- Whether a file is documented by its functions. -/
def Classification.isFunctionFile (c : Classification) : Bool := c.classes.isEmpty

/-- A block of statements with the name of its namespace. -/
structure Block where
  name : String
  body : List Statement
  deriving Inhabited

def Block.ofStatement? : Statement → Option Block
  | .block name body _ _ => some ⟨name, body⟩
  | _ => none

def classOf? : Statement → Option ClassDecl
  | .classDecl c => some c
  | _ => none

def functionOf? : Statement → Option FunctionDecl
  | .functionDecl f => some f
  | _ => none

def Block.classes (b : Block) : List ScopedClass := (b.body.filterMap classOf?).map fun c => ⟨b.name, c⟩

/-- The functions of a block. -/
def Block.functions (b : Block) : List FunctionDecl := b.body.filterMap functionOf?

/-- Picks the declarations of blocks: the classes, or the functions when there are none. -/
def ofBlocks (name : String) (comments : List Comment) (blocks : List Block) : Classification :=
  let classes := blocks.flatMap Block.classes
  ⟨name, comments, classes, if classes.isEmpty then blocks.flatMap Block.functions else []⟩

/-- The declarations of a source file that are documented. -/
def classify (t : SourceTree) : Classification :=
  let statements := t.statements.filter fun s => !isPrelude s
  match statements with
  | .block name _ comments _ :: _ => ofBlocks name comments (statements.filterMap Block.ofStatement?)
  | _ => ofBlocks "" [] [⟨"", statements⟩]

end ApiDoc.Record
