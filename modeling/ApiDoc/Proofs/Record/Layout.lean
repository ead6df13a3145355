import Mathlib.Logic.Relation
import ApiDoc.Proofs.Record.Namespaces

/-!
# Equivalent ways to write a file

One file can be written in many ways that declare the same. Each step of `Rewritten` leads from one to another:

* a directive or a text outside the code comes in at the outermost level;
* a statement that is not documented comes into a namespace, at any depth;
* a file without namespaces is put into the global one;
* a namespace is cut in two of the same name.

The declarations to document, and with them the documentation, stay the same after any number of steps in either direction (`classify_eq_of_rewritten`). What they depend on is how the code begins and which declarations stand in its namespaces and outside of them; code that agrees in this may stand in the place of other code (`SameCode.middle`).
-/

namespace ApiDoc.Record

open Syntax

/-- A statement that is not documented comes in among others, or in a namespace among them. -/
inductive OtherAdded : List Statement → List Statement → Prop
  | here (before after : List Statement) (o : Other) : OtherAdded (before ++ after) (before ++ [.other o] ++ after)
  | inside (before after : List Statement) (name : String) (comments : List Comment) (line : Int) {body body' : List Statement}
      (h : OtherAdded body body') :
      OtherAdded (before ++ [.block name body comments line] ++ after) (before ++ [.block name body' comments line] ++ after)

/-- The statements of a file are written in another way. -/
inductive Rewritten : List Statement → List Statement → Prop
  /-- A directive or a text outside the code comes in. -/
  | aside (before after : List Statement) {s : Statement} (h : IsAside s) : Rewritten (before ++ after) (before ++ [s] ++ after)
  /-- A statement that is not documented comes into a namespace. -/
  | other (before after : List Statement) (name : String) (comments : List Comment) (line : Int) {body body' : List Statement}
      (h : OtherAdded body body') :
      Rewritten (before ++ [.block name body comments line] ++ after) (before ++ [.block name body' comments line] ++ after)
  /-- A file without namespaces is put into the global one. -/
  | wrap {statements : List Statement} (h : namespacesOf statements = []) (line : Int) :
      Rewritten statements [.block "" statements [] line]
  /-- A namespace is cut in two; the second part has no comments. -/
  | cut (before after front back : List Statement) (name : String) (comments : List Comment) (line line' line'' : Int) :
      Rewritten (before ++ [.block name (front ++ back) comments line] ++ after)
        (before ++ [.block name front comments line', .block name back [] line''] ++ after)

/-! ### What the classification depends on -/

/-- The name and the comments of the namespace that code begins with. -/
def leading : List Statement → Option (String × List Comment)
  | .block name _ comments _ :: _ => some (name, comments)
  | _ => none

theorem leading_cons (s : Statement) (xs ys : List Statement) : leading (s :: xs) = leading (s :: ys) := by
  cases s <;> rfl

theorem leading_append {xs : List Statement} (hne : xs ≠ []) (ys : List Statement) : leading (xs ++ ys) = leading xs := by
  cases xs with
  | nil => exact absurd rfl hne
  | cons s rest => exact leading_cons s _ _

theorem classify_of_leading {t : SourceTree} {name : String} {comments : List Comment}
    (h : leading (codeOf t) = some (name, comments)) : classify t = ofBlocks name comments (namespacesOf (codeOf t)) := by
  rw [classify_eq, firstName, fileComments, scannedBlocks]
  generalize codeOf t = code at h ⊢
  rcases code with _ | ⟨_ | _ | _ | _, rest⟩
  · cases h
  · cases h
    rfl
  · cases h
  · cases h
  · cases h

theorem classify_of_leading_none {t : SourceTree} (h : leading (codeOf t) = none) : classify t = ofBlocks "" [] [⟨"", codeOf t⟩] := by
  rw [classify_eq, firstName, fileComments, scannedBlocks]
  generalize codeOf t = code at h ⊢
  rcases code with _ | ⟨_ | _ | _ | _, rest⟩
  · rfl
  · cases h
  · rfl
  · rfl
  · rfl

theorem ofBlocks_congr {blocks blocks' : List Block} (name : String) (comments : List Comment)
    (hclasses : blocks.flatMap Block.classes = blocks'.flatMap Block.classes)
    (hfunctions : blocks.flatMap Block.functions = blocks'.flatMap Block.functions) :
    ofBlocks name comments blocks = ofBlocks name comments blocks' := by
  rw [ofBlocks, ofBlocks, hclasses, hfunctions]

/-- The same classes and functions stand directly among statements, in the same order. -/
structure SameDeclarations (xs ys : List Statement) : Prop where
  classes : xs.filterMap classOf? = ys.filterMap classOf?
  functions : xs.filterMap functionOf? = ys.filterMap functionOf?

/-- Code that begins alike and has the same declarations, in its namespaces and outside of them. -/
structure SameCode (xs ys : List Statement) : Prop where
  leading : leading xs = leading ys
  loose : SameDeclarations xs ys
  classes : (namespacesOf xs).flatMap Block.classes = (namespacesOf ys).flatMap Block.classes
  functions : (namespacesOf xs).flatMap Block.functions = (namespacesOf ys).flatMap Block.functions

theorem SameDeclarations.middle {part part' : List Statement} (h : SameDeclarations part part') (before after : List Statement) :
    SameDeclarations (before ++ part ++ after) (before ++ part' ++ after) where
  classes := by simp only [List.filterMap_append, h.classes]
  functions := by simp only [List.filterMap_append, h.functions]

theorem namespacesOf_append (xs ys : List Statement) : namespacesOf (xs ++ ys) = namespacesOf xs ++ namespacesOf ys :=
  List.flatMap_append

theorem SameCode.middle {part part' : List Statement} (h : SameCode part part') (hne : part ≠ []) (hne' : part' ≠ [])
    (before after : List Statement) : SameCode (before ++ part ++ after) (before ++ part' ++ after) where
  leading := by
    cases before with
    | nil => rw [List.nil_append, List.nil_append, leading_append hne, leading_append hne', h.leading]
    | cons s rest => exact leading_cons s _ _
  loose := h.loose.middle before after
  classes := by simp only [namespacesOf_append, List.flatMap_append, h.classes]
  functions := by simp only [namespacesOf_append, List.flatMap_append, h.functions]

theorem SameCode.classify_eq {t t' : SourceTree} (h : SameCode (codeOf t) (codeOf t')) : classify t = classify t' := by
  cases hleading : Record.leading (codeOf t) with
  | none =>
    rw [classify_of_leading_none hleading, classify_of_leading_none (h.leading ▸ hleading)]
    refine ofBlocks_congr _ _ ?_ ?_
    · simp only [List.flatMap_singleton, Block.classes, h.loose.classes]
    · simp only [List.flatMap_singleton, Block.functions, h.loose.functions]
  | some first =>
    obtain ⟨name, comments⟩ := first
    rw [classify_of_leading hleading, classify_of_leading (h.leading ▸ hleading)]
    exact ofBlocks_congr _ _ h.classes h.functions

/-! ### Steps -/

theorem OtherAdded.sameDeclarations {body body' : List Statement} (h : OtherAdded body body') : SameDeclarations body body' := by
  -- neither a statement that is not documented nor a namespace is a declaration, whatever it holds
  cases h with
  | here before after o =>
    have hnone : SameDeclarations [] [.other o] := ⟨rfl, rfl⟩
    simpa using hnone.middle before after
  | @inside before after name comments line body body' h =>
    have hnone : SameDeclarations [.block name body comments line] [.block name body' comments line] := ⟨rfl, rfl⟩
    exact hnone.middle before after

theorem SameDeclarations.sameCode {body body' : List Statement} (h : SameDeclarations body body') (name : String)
    (comments : List Comment) (line : Int) : SameCode [.block name body comments line] [.block name body' comments line] where
  leading := rfl
  loose := ⟨rfl, rfl⟩
  classes := by simp [namespacesOf, Block.classes, h.classes]
  functions := by simp [namespacesOf, Block.functions, h.functions]

theorem sameCode_cut (front back : List Statement) (name : String) (comments : List Comment) (line line' line'' : Int) :
    SameCode [.block name (front ++ back) comments line] [.block name front comments line', .block name back [] line''] where
  leading := rfl
  loose := ⟨rfl, rfl⟩
  classes := by simp [namespacesOf, Block.classes]
  functions := by simp [namespacesOf, Block.functions]

/-- Namespaces are code, so they are replaced in the code as in the file. -/
theorem classify_eq_of_blocks {part part' : List Statement} (h : SameCode part part') (hne : part ≠ []) (hne' : part' ≠ [])
    (hkept : part.filter (fun s => ¬ IsAside s) = part) (hkept' : part'.filter (fun s => ¬ IsAside s) = part')
    {t t' : SourceTree} {before after : List Statement} (ht : t.statements = before ++ part ++ after)
    (ht' : t'.statements = before ++ part' ++ after) : classify t = classify t' := by
  have hcode := h.middle hne hne' (before.filter fun s => ¬ IsAside s) (after.filter fun s => ¬ IsAside s)
  refine SameCode.classify_eq ?_
  rwa [codeOf, codeOf, ht, ht', List.filter_append, List.filter_append, List.filter_append, List.filter_append, hkept, hkept']

theorem filterMap_codeOf {α : Type} {pick : Statement → Option α} (h : ∀ s, IsAside s → pick s = none) (t : SourceTree) :
    (codeOf t).filterMap pick = t.statements.filterMap pick := by
  rw [codeOf, List.filterMap_filter]
  refine List.filterMap_congr fun s _ => ?_
  by_cases haside : IsAside s
  · simp [haside, h s haside]
  · simp [haside]

theorem pick_eq_none_of_isAside {s : Statement} (h : IsAside s) : classOf? s = none ∧ functionOf? s = none := by
  cases s with
  | other o => exact ⟨rfl, rfl⟩
  | _ => exact h.elim

theorem leading_eq_none_of_namespacesOf {code : List Statement} (h : namespacesOf code = []) : leading code = none := by
  rcases code with _ | ⟨_ | _ | _ | _, rest⟩
  · rfl
  · simp [namespacesOf] at h
  · rfl
  · rfl
  · rfl

theorem classify_eq_of_wrap {t t' : SourceTree} (h : namespacesOf t.statements = []) {line : Int}
    (ht' : t'.statements = [.block "" t.statements [] line]) : classify t = classify t' := by
  have hleading : leading (codeOf t) = none := leading_eq_none_of_namespacesOf (by rwa [namespacesOf_codeOf])
  have hcode' : codeOf t' = [.block "" t.statements [] line] := by
    rw [codeOf, ht']
    rfl
  have hleading' : leading (codeOf t') = some ("", []) := by
    rw [hcode']
    rfl
  rw [classify_of_leading_none hleading, classify_of_leading hleading', hcode']
  refine ofBlocks_congr _ _ ?_ ?_
  · simp [namespacesOf, Block.classes, filterMap_codeOf fun s hs => (pick_eq_none_of_isAside hs).1]
  · simp [namespacesOf, Block.functions, filterMap_codeOf fun s hs => (pick_eq_none_of_isAside hs).2]

theorem classify_eq_of_step {t t' : SourceTree} (h : Rewritten t.statements t'.statements) : classify t = classify t' := by
  generalize ht : t.statements = statements at h
  generalize ht' : t'.statements = statements' at h
  cases h with
  | @aside before after s hs =>
    have hcode : codeOf t = codeOf t' := by simp [codeOf, ht, ht', hs]
    exact SameCode.classify_eq (hcode ▸ ⟨rfl, ⟨rfl, rfl⟩, rfl, rfl⟩)
  | other before after name comments line hbody =>
    exact classify_eq_of_blocks (hbody.sameDeclarations.sameCode name comments line) (List.cons_ne_nil _ _)
      (List.cons_ne_nil _ _) rfl rfl ht ht'
  | wrap hnone line =>
    subst ht
    exact classify_eq_of_wrap hnone ht'
  | cut before after front back name comments line line' line'' =>
    exact classify_eq_of_blocks (sameCode_cut front back name comments line line' line'') (List.cons_ne_nil _ _)
      (List.cons_ne_nil _ _) rfl rfl ht ht'

theorem build_eq_of_classify {t t' : SourceTree} (h : classify t = classify t') (settings : Settings) :
    build settings t = build settings t' := by
  rw [build, build, h]

theorem classify_eq_of_eqvGen {statements statements' : List Statement} (h : Relation.EqvGen Rewritten statements statements')
    (path path' : Option String) : classify ⟨statements, path⟩ = classify ⟨statements', path'⟩ := by
  induction h generalizing path path' with
  | rel _ _ h => exact classify_eq_of_step h
  | refl _ => rfl
  | symm _ _ _ ih => exact (ih path' path).symm
  | trans _ _ _ _ _ ih ih' => exact (ih path path).trans (ih' path path')

/-- **However a file is written, it has the same documentation,** under all settings. -/
theorem classify_eq_of_rewritten {t t' : SourceTree} (h : Relation.EqvGen Rewritten t.statements t'.statements) :
    classify t = classify t' ∧ ∀ settings, build settings t = build settings t' := by
  have hclassify : classify t = classify t' := classify_eq_of_eqvGen h t.path t'.path
  exact ⟨hclassify, build_eq_of_classify hclassify⟩

def looseFile : SourceTree := ⟨[.other ⟨"Stmt_Declare", [], 1⟩, bareClass "Counter" 2, bareFunction "count"], none⟩

/-- The same declarations in two parts of the global namespace, with an import and a text between the parts. -/
def partedFile : SourceTree :=
  ⟨[.block "" [.other ⟨"Stmt_Declare", [], 1⟩, .other ⟨"Stmt_Use", [], 2⟩, bareClass "Counter" 2] [] 1,
    .other ⟨"Stmt_InlineHTML", [], 3⟩, .block "" [bareFunction "count"] [] 4], none⟩

theorem rewritten_partedFile : Relation.EqvGen Rewritten looseFile.statements partedFile.statements := by
  have hwrap : Rewritten looseFile.statements [.block "" looseFile.statements [] 1] := .wrap rfl 1
  have hother := Rewritten.other [] [] "" [] 1
    (OtherAdded.here [.other ⟨"Stmt_Declare", [], 1⟩] [bareClass "Counter" 2, bareFunction "count"] ⟨"Stmt_Use", [], 2⟩)
  have hcut := Rewritten.cut [] [] [.other ⟨"Stmt_Declare", [], 1⟩, .other ⟨"Stmt_Use", [], 2⟩, bareClass "Counter" 2]
    [bareFunction "count"] "" [] 1 1 4
  have haside := Rewritten.aside
    [.block "" [.other ⟨"Stmt_Declare", [], 1⟩, .other ⟨"Stmt_Use", [], 2⟩, bareClass "Counter" 2] [] 1]
    [.block "" [bareFunction "count"] [] 4] (show IsAside (.other ⟨"Stmt_InlineHTML", [], 3⟩) from .inr rfl)
  exact .trans _ _ _ (.rel _ _ hwrap) (.trans _ _ _ (.rel _ _ hother) (.trans _ _ _ (.rel _ _ hcut) (.rel _ _ haside)))

theorem classify_partedFile :
    Relation.EqvGen Rewritten looseFile.statements partedFile.statements ∧ classify looseFile = classify partedFile
      ∧ build Settings.default partedFile = .ok [("Counter", bareClassDoc "Counter" "")] := by
  obtain ⟨hclassify, hbuild⟩ := classify_eq_of_rewritten rewritten_partedFile
  have hloose : build Settings.default looseFile = .ok [("Counter", bareClassDoc "Counter" "")] := by decide +kernel
  exact ⟨rewritten_partedFile, hclassify, (hbuild Settings.default).symm.trans hloose⟩

end ApiDoc.Record
