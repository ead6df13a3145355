import ApiDoc.Proofs.Forest
import ApiDoc.Proofs.Text.Lines
import ApiDoc.Syntax.Outline

/-!
# What an outline shows

A source tree is a forest of statements and class members. Its outline shows each node of that forest once, in pre-order, on a line of its own that starts with two spaces for each level above the node (`outline_eq_map_preorder`).

The words on a line do not start with a space unless a kind does, and only statements and members that are not documented are shown by their kinds. So the spaces at the front of a line say its depth (`depthOf_indented`), and the depths of the lines say the shape of the tree (`outline_shows_forest`).
-/

namespace ApiDoc.Syntax

/-! ### The forest of a tree -/

/-- What has a line of its own. -/
inductive Node where
  | statement (s : Statement)
  | member (m : Member)

def Node.label : Node → String
  | .statement s => s.label
  | .member m => m.label

mutual

/-- What stands below a statement: the statements of a namespace, or the members of a class. -/
def Statement.contents : Statement → Forest Node
  | .block _ body _ _ => forestOf body
  | .classDecl c => .row (c.members.map .member)
  | .functionDecl _ => .empty
  | .other _ => .empty

def forestOf : List Statement → Forest Node
  | [] => .empty
  | s :: rest => .cons (.statement s) s.contents (forestOf rest)

end

/-- The statements of a tree and the members of its classes, each under what it stands in. -/
def SourceTree.forest (t : SourceTree) : Forest Node := forestOf t.statements

/-- The line of a node at its depth. -/
def lineOf (e : Nat × Node) : String := indented e.1 e.2.label

mutual

theorem Statement.outline_eq (depth : Nat) :
    (s : Statement) → s.outline depth = indented depth s.label :: (s.contents.preorder (depth + 1)).map lineOf
  | .block name body comments line => by rw [Statement.outline, Statement.contents, outlineOf_eq (depth + 1) body]
  | .classDecl c => by
    rw [Statement.outline, Statement.contents, Forest.preorder_row, List.map_map, List.map_map]
    rfl
  | .functionDecl f => by rw [Statement.outline, Statement.contents, Forest.preorder, List.map_nil] <;> simp
  | .other o => by rw [Statement.outline, Statement.contents, Forest.preorder, List.map_nil] <;> simp

theorem outlineOf_eq (depth : Nat) : (body : List Statement) → outlineOf depth body = ((forestOf body).preorder depth).map lineOf
  | [] => by rw [outlineOf, forestOf, Forest.preorder, List.map_nil]
  | s :: rest => by
    rw [outlineOf, forestOf, Forest.preorder, List.map_append, List.map_cons, s.outline_eq depth, outlineOf_eq depth rest]
    rfl

end

theorem outline_eq_map_preorder (t : SourceTree) : t.outline = (t.forest.preorder 0).map lineOf :=
  outlineOf_eq 0 t.statements

/-! ### Words that do not start with a space -/

def Unindented (s : String) : Prop := s.toList.head? ≠ some ' '

instance (s : String) : Decidable (Unindented s) := inferInstanceAs (Decidable (s.toList.head? ≠ some ' '))

theorem unindented_of_prefix {s : String} (word : String) (h : Unindented word) (hne : word.toList ≠ [])
    (hstarts : word.toList <+: s.toList) :
    Unindented s := by
  obtain ⟨rest, hrest⟩ := hstarts
  unfold Unindented at h ⊢
  rw [← hrest, List.head?_append_of_ne_nil _ hne]
  exact h

/-- No statement or member of a kind that starts with a space. -/
def SourceTree.KindsUnindented (t : SourceTree) : Prop := ∀ kind ∈ otherKindsOf t.statements, Unindented kind

instance (t : SourceTree) : Decidable t.KindsUnindented := List.decidableBAll (fun kind => Unindented kind) _

theorem Other.unindented_label {o : Other} (h : Unindented o.kind) : Unindented o.label := by
  have hkind : Unindented (kindLabel o.kind) ∧ (kindLabel o.kind).toList ≠ [] := by
    unfold kindLabel
    split
    · exact ⟨by decide, by decide⟩
    · rename_i hne
      refine ⟨h, fun hnil => hne ?_⟩
      rw [String.toList_eq_nil_iff.mp hnil]
      rfl
  apply unindented_of_prefix _ hkind.1 hkind.2
  rw [Other.label, String.append_assoc, String.toList_append]
  exact List.prefix_append _ _

theorem Member.unindented_label {m : Member} (h : ∀ o ∈ m.other?, Unindented o.kind) : Unindented m.label := by
  cases m with
  | property p =>
    apply unindented_of_prefix "property " (by decide) (by decide)
    simp only [Member.label, String.toList_append, List.append_assoc]
    exact List.prefix_append _ _
  | method m =>
    apply unindented_of_prefix "method " (by decide) (by decide)
    simp only [Member.label, String.toList_append, List.append_assoc]
    exact List.prefix_append _ _
  | other o => exact Other.unindented_label (h o rfl)

theorem Statement.unindented_label {s : Statement} (h : ∀ kind ∈ s.otherKinds, Unindented kind) : Unindented s.label := by
  cases s with
  | block name body comments line =>
    apply unindented_of_prefix "namespace " (by decide) (by decide)
    simp only [Statement.label, String.toList_append, List.append_assoc]
    exact List.prefix_append _ _
  | classDecl c =>
    apply unindented_of_prefix "class " (by decide) (by decide)
    simp only [Statement.label, String.toList_append, List.append_assoc]
    exact List.prefix_append _ _
  | functionDecl f =>
    apply unindented_of_prefix "function " (by decide) (by decide)
    simp only [Statement.label, String.toList_append, List.append_assoc]
    exact List.prefix_append _ _
  | other o =>
    apply Other.unindented_label
    apply h
    rw [Statement.otherKinds]
    exact List.mem_singleton_self _

mutual

theorem Statement.unindented_contents (depth : Nat) : (s : Statement) → (∀ kind ∈ s.otherKinds, Unindented kind) →
    ∀ e ∈ s.contents.preorder depth, Unindented e.2.label
  | .block name body comments line, h => by
    rw [Statement.otherKinds] at h
    rw [Statement.contents]
    exact unindented_forestOf depth body h
  | .classDecl c, h => by
    rw [Statement.otherKinds] at h
    rw [Statement.contents, Forest.preorder_row, List.map_map]
    intro e he
    obtain ⟨m, hm, rfl⟩ := List.mem_map.mp he
    apply Member.unindented_label
    intro o ho
    apply h
    rw [List.mem_filterMap]
    exact ⟨m, hm, by rw [Option.mem_def.mp ho]; rfl⟩
  | .functionDecl f, h => by
    rw [Statement.contents]
    intro e he
    cases he
  | .other o, h => by
    rw [Statement.contents]
    intro e he
    cases he

theorem unindented_forestOf (depth : Nat) : (body : List Statement) → (∀ kind ∈ otherKindsOf body, Unindented kind) →
    ∀ e ∈ (forestOf body).preorder depth, Unindented e.2.label
  | [], h => by
    rw [forestOf]
    intro e he
    cases he
  | s :: rest, h => by
    rw [otherKindsOf, List.forall_mem_append] at h
    rw [forestOf, Forest.preorder, List.forall_mem_append, List.forall_mem_cons]
    exact ⟨⟨s.unindented_label h.1, s.unindented_contents (depth + 1) h.1⟩, unindented_forestOf depth rest h.2⟩

end

/-! ### Reading an outline -/

/-- The spaces at the front of a line and what follows them. -/
def spanSpaces (line : String) : List Char × List Char := line.toList.span (· == ' ')

def depthOf (line : String) : Nat := (spanSpaces line).1.length / 2

def wordsOf (line : String) : String := String.ofList (spanSpaces line).2

theorem spanSpaces_indented {label : String} (h : Unindented label) (depth : Nat) :
    spanSpaces (indented depth label) = (List.replicate (2 * depth) ' ', label.toList) := by
  rw [spanSpaces, indented, String.toList_append, String.toList_ofList]
  apply Text.span_append
  · intro c hc
    rw [List.eq_of_mem_replicate hc]
    rfl
  · intro c hc
    rw [beq_eq_false_iff_ne]
    rintro rfl
    exact h hc

theorem depthOf_indented {label : String} (h : Unindented label) (depth : Nat) : depthOf (indented depth label) = depth := by
  rw [depthOf, spanSpaces_indented h, List.length_replicate]
  omega

theorem wordsOf_indented {label : String} (h : Unindented label) (depth : Nat) : wordsOf (indented depth label) = label := by
  rw [wordsOf, spanSpaces_indented h, String.ofList_toList]

theorem SourceTree.KindsUnindented.read_outline {t : SourceTree} (h : t.KindsUnindented) :
    t.outline.map (fun line => (depthOf line, wordsOf line)) = (t.forest.map Node.label).preorder 0 := by
  rw [outline_eq_map_preorder, Forest.preorder_map, List.map_map]
  apply List.map_congr_left
  intro e he
  have hlabel : Unindented e.2.label := unindented_forestOf 0 t.statements h e he
  show (depthOf (indented e.1 e.2.label), wordsOf (indented e.1 e.2.label)) = _
  rw [depthOf_indented hlabel, wordsOf_indented hlabel]

/-- **An outline shows every node once at its depth, and says the shape of the tree.** It has one line for each statement and each class member, in pre-order: two spaces for each level above the node, and then its words. If no kind starts with a space, half the number of spaces at the front of a line is its depth, and trees with equal outlines have the same shape and the same words at each node. -/
theorem outline_shows_forest (t : SourceTree) :
    t.outline = (t.forest.preorder 0).map (fun e => String.ofList (List.replicate (2 * e.1) ' ') ++ e.2.label) ∧
    t.outline.length = t.forest.size ∧
    (t.KindsUnindented →
      t.outline.map depthOf = (t.forest.preorder 0).map Prod.fst ∧
      ∀ t' : SourceTree, t'.KindsUnindented → t.outline = t'.outline →
        t.forest.shape = t'.forest.shape ∧ t.forest.map Node.label = t'.forest.map Node.label) := by
  refine ⟨outline_eq_map_preorder t, ?_, fun h => ?_⟩
  · rw [outline_eq_map_preorder, List.length_map, Forest.length_preorder]
  have hdepths {u : SourceTree} (hu : u.KindsUnindented) : u.outline.map depthOf = (u.forest.preorder 0).map Prod.fst := by
    have hread := congrArg (List.map Prod.fst) hu.read_outline
    rw [List.map_map, Forest.preorder_map, List.map_map] at hread
    exact hread
  refine ⟨hdepths h, fun t' h' houtline => ⟨?_, ?_⟩⟩
  · apply Forest.shape_eq_of_depths 0
    rw [← hdepths h, ← hdepths h', houtline]
  · apply Forest.preorder_injective 0
    rw [← h.read_outline, ← h'.read_outline, houtline]

-- a kind that starts with spaces can pass for a statement further down
example :
    (⟨[.block "A" [.other ⟨"x", [], 2⟩] [] 1], none⟩ : SourceTree).outline =
      (⟨[.block "A" [] [] 1, .other ⟨"  x", [], 2⟩], none⟩ : SourceTree).outline := by
  decide +kernel

/-- A file with a class in a namespace without a name, inside another namespace. -/
def nestedTree : SourceTree where
  statements := [
    .block "A" [
      .block "" [
        .classDecl ⟨"C", [.property ⟨[⟨"x", none, []⟩, ⟨"y", none, []⟩], 1, none, [], 4⟩, .method ⟨"m", 1, [], none, [], 5⟩,
          .other ⟨"Stmt_TraitUse", [], 6⟩], 0, [], 3⟩] [] 2,
      .functionDecl ⟨"f", [], none, [], 8⟩] [] 1,
    .other ⟨"", [], 9⟩]
  path := none

/-- A file with the same outline: a path, types, comments and flags of classes are not shown, and a statement can be of a kind that looks like a function. -/
def disguisedTree : SourceTree where
  statements := [
    .block "A" [
      .block "" [
        .classDecl ⟨"C", [.property ⟨[⟨"x", none, []⟩, ⟨"y", none, []⟩], 1, some "int", [], 4⟩,
          .method ⟨"m", 1, [], some "self", [], 5⟩, .other ⟨"Stmt_TraitUse", [], 6⟩], 32, [⟨"/** C. */", 2, true⟩], 3⟩] [] 2,
      .other ⟨"function f()", [], 8⟩] [] 1,
    .other ⟨"?", [], 9⟩]
  path := some "dump.json"

theorem outline_disguisedTree :
    disguisedTree.KindsUnindented ∧ nestedTree.KindsUnindented ∧ disguisedTree.outline = nestedTree.outline ∧
      disguisedTree.outline.length = disguisedTree.forest.size ∧
      disguisedTree.outline.map depthOf = [0, 1, 2, 3, 3, 3, 1, 0] ∧ disguisedTree.forest.shape = nestedTree.forest.shape := by
  have hkinds : disguisedTree.KindsUnindented := by decide +kernel
  have hkinds' : nestedTree.KindsUnindented := by decide +kernel
  have houtline : disguisedTree.outline = nestedTree.outline := by decide +kernel
  obtain ⟨-, hlength, hread⟩ := outline_shows_forest disguisedTree
  obtain ⟨hdepths, hshape⟩ := hread hkinds
  exact ⟨hkinds, hkinds', houtline, hlength, hdepths.trans rfl, (hshape nestedTree hkinds' houtline).1⟩

end ApiDoc.Syntax
