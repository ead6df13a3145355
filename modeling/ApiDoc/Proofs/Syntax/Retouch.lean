import Mathlib.Data.List.Basic
import ApiDoc.Syntax.Basic

/-!
# Retouched trees

A tree in which only comments, lines and the flags of classes are changed, the same way everywhere, at all depths of nested namespaces. Names, kinds, members, parameters, types and defaults stay.

* `SourceTree.retouch` changes a tree by a `Retouch`.
* `Retouch.reversed` turns the order of attached comments around, `Retouch.textsOnly` forgets everything about comments but their texts, and `Retouch.nothing` changes nothing (`retouch_nothing`).
-/

namespace ApiDoc.Syntax

/-- What is done to the comments, the lines and the flags of classes in a tree. -/
structure Retouch where
  /-- The comments of namespaces, classes, functions, property statements, property items and methods. -/
  comments : List Comment → List Comment
  /-- The comments of statements that are not documented. -/
  otherComments : List Comment → List Comment
  line : Int → Int
  classFlags : Int → Int

namespace Retouch

/-- Changes nothing. -/
def nothing : Retouch := ⟨id, id, id, id⟩

def reversed : Retouch := { nothing with comments := List.reverse }

def textsOnly : Retouch :=
  { comments := List.map fun c => ⟨c.text, 0, false⟩
    otherComments := fun _ => []
    line := fun _ => 0
    classFlags := fun _ => 0 }

end Retouch

variable (r : Retouch)

def PropertyItem.retouch (item : PropertyItem) : PropertyItem := { item with comments := r.comments item.comments }

def Property.retouch (p : Property) : Property :=
  { p with
    items := p.items.map (PropertyItem.retouch r)
    comments := r.comments p.comments
    line := r.line p.line }

def Method.retouch (m : Method) : Method := { m with comments := r.comments m.comments, line := r.line m.line }

def Other.retouch (o : Other) : Other := { o with comments := r.otherComments o.comments, line := r.line o.line }

def Member.retouch : Member → Member
  | .property p => .property (p.retouch r)
  | .method m => .method (m.retouch r)
  | .other o => .other (o.retouch r)

def ClassDecl.retouch (c : ClassDecl) : ClassDecl :=
  { c with
    members := c.members.map (Member.retouch r)
    flags := r.classFlags c.flags
    comments := r.comments c.comments
    line := r.line c.line }

def FunctionDecl.retouch (f : FunctionDecl) : FunctionDecl :=
  { f with comments := r.comments f.comments, line := r.line f.line }

mutual

def Statement.retouch : Statement → Statement
  | .block name body comments line => .block name (retouchAll body) (r.comments comments) (r.line line)
  | .classDecl c => .classDecl (c.retouch r)
  | .functionDecl f => .functionDecl (f.retouch r)
  | .other o => .other (o.retouch r)

def retouchAll : List Statement → List Statement
  | [] => []
  | s :: rest => s.retouch :: retouchAll rest

end

def SourceTree.retouch (t : SourceTree) : SourceTree := { t with statements := t.statements.map (Statement.retouch r) }

theorem retouchAll_eq_map (body : List Statement) : retouchAll r body = body.map (Statement.retouch r) := by
  induction body with
  | nil => rw [retouchAll, List.map_nil]
  | cons s rest ih => rw [retouchAll, List.map_cons, ih]

theorem retouch_block (name : String) (body : List Statement) (comments : List Comment) (line : Int) :
    (Statement.block name body comments line).retouch r =
      .block name (body.map (Statement.retouch r)) (r.comments comments) (r.line line) := by
  rw [Statement.retouch, retouchAll_eq_map]

/-! ### Nothing changed -/

theorem Member.retouch_nothing (m : Member) : m.retouch .nothing = m := by
  cases m with
  | property p =>
    have hitems : p.items.map (PropertyItem.retouch .nothing) = p.items := List.map_id p.items
    rw [Member.retouch, Property.retouch, hitems]
    rfl
  | method m => rfl
  | other o => rfl

theorem ClassDecl.retouch_nothing (c : ClassDecl) : c.retouch .nothing = c := by
  have hmembers : c.members.map (Member.retouch .nothing) = c.members := by
    rw [funext Member.retouch_nothing]
    exact List.map_id c.members
  rw [ClassDecl.retouch, hmembers]
  rfl

mutual

theorem Statement.retouch_nothing : (s : Statement) → s.retouch .nothing = s
  | .block name body comments line => by
    rw [Statement.retouch, retouchAll_nothing body]
    rfl
  | .classDecl c => by rw [Statement.retouch, c.retouch_nothing]
  | .functionDecl f => by
    rw [Statement.retouch]
    rfl
  | .other o => by
    rw [Statement.retouch]
    rfl

theorem retouchAll_nothing : (body : List Statement) → retouchAll .nothing body = body
  | [] => by rw [retouchAll]
  | s :: rest => by rw [retouchAll, s.retouch_nothing, retouchAll_nothing rest]

end

theorem SourceTree.retouch_nothing (t : SourceTree) : t.retouch .nothing = t := by
  rw [SourceTree.retouch, ← retouchAll_eq_map, retouchAll_nothing]

end ApiDoc.Syntax
