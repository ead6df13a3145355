import ApiDoc.Syntax.Basic

/-!
# Outlines

An outline shows a syntax tree with one line per statement and per class member, indented by two spaces for each level it stands below the top.
-/

namespace ApiDoc.Syntax

/-- A kind, or a question mark when it is empty. -/
def kindLabel (kind : String) : String := if kind.isEmpty then "?" else kind

/-- The words for a statement that is not documented. -/
def Other.label (o : Other) : String := kindLabel o.kind ++ " @" ++ toString o.line

def Member.label : Member → String
  | .property p =>
    "property " ++ ", ".intercalate (p.items.map fun item => "$" ++ item.name) ++ " flags=" ++ toString p.flags
      ++ " @" ++ toString p.line
  | .method m => "method " ++ m.name ++ "() flags=" ++ toString m.flags ++ " @" ++ toString m.line
  | .other o => o.label

def Statement.label : Statement → String
  | .block name _ _ line => "namespace " ++ (if name.isEmpty then "(global)" else name) ++ " @" ++ toString line
  | .classDecl c => "class " ++ c.name ++ " @" ++ toString c.line
  | .functionDecl f => "function " ++ f.name ++ "() @" ++ toString f.line
  | .other o => o.label

def indented (depth : Nat) (label : String) : String := String.ofList (List.replicate (2 * depth) ' ') ++ label

mutual

/-- The lines of a statement at a depth. -/
def Statement.outline (depth : Nat) : Statement → List String
  | .block name body comments line =>
    indented depth (Statement.block name body comments line).label :: outlineOf (depth + 1) body
  | .classDecl c => indented depth (Statement.classDecl c).label :: c.members.map fun m => indented (depth + 1) m.label
  | s => [indented depth s.label]

def outlineOf (depth : Nat) : List Statement → List String
  | [] => []
  | s :: rest => s.outline depth ++ outlineOf depth rest

end

def SourceTree.outline (t : SourceTree) : List String := outlineOf 0 t.statements

end ApiDoc.Syntax
