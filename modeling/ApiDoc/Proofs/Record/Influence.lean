import ApiDoc.Proofs.Record.Members
import ApiDoc.Proofs.Syntax.Retouch

/-!
# What settings and attached comments influence

Settings and attached comments reach a documentation through the comments of its records and through nothing else. Every record takes its comment from `commentOf`; so if two settings give comments that look the same under a view, the second after retouching the tree, the documentations look the same under that view, or both fail with one fault (`map_build_eq`).

The views are these:

* `noComment` shows nothing of a comment: there any settings give the same, as long as their patterns compile;
* `rawOnly` shows its text: there settings give the same that choose the same comment;
* `id` shows everything: there settings with the same patterns give the same. Choosing the first comment is choosing the last one after turning the order of comments around.
-/

namespace ApiDoc.Record

open Syntax DocComment NaturalOrder

/-! ### Views of comments -/

/-- The comment of a record in its two forms: as it was written, and parsed. -/
abbrev Forms := String × Option Parsed

/-- Nothing of a comment. -/
def noComment : Forms → Forms := fun _ => ("", none)

def rawOnly : Forms → Forms := fun c => (c.1, none)

variable (view : Forms → Forms)

def PropertyDoc.viewed (d : PropertyDoc) : PropertyDoc :=
  { d with
    rawComment := (view (d.rawComment, d.parsedComment)).1
    parsedComment := (view (d.rawComment, d.parsedComment)).2 }

def FunctionDoc.viewed (d : FunctionDoc) : FunctionDoc :=
  { d with
    rawComment := (view (d.rawComment, d.parsedComment)).1
    parsedComment := (view (d.rawComment, d.parsedComment)).2 }

def MethodDoc.viewed (d : MethodDoc) : MethodDoc := { d with toFunctionDoc := d.toFunctionDoc.viewed view }

def ClassDoc.viewed (d : ClassDoc) : ClassDoc :=
  { d with
    rawComment := (view (d.rawComment, d.parsedComment)).1
    parsedComment := (view (d.rawComment, d.parsedComment)).2
    properties := Keyed.mapValues (PropertyDoc.viewed view) d.properties
    methods := Keyed.mapValues (MethodDoc.viewed view) d.methods }

def FunctionFileDoc.viewed (d : FunctionFileDoc) : FunctionFileDoc :=
  { d with
    rawComment := (view (d.rawComment, d.parsedComment)).1
    parsedComment := (view (d.rawComment, d.parsedComment)).2
    functions := Keyed.mapValues (FunctionDoc.viewed view) d.functions }

def Declaration.viewed : Declaration → Declaration
  | .classDoc c => .classDoc (c.viewed view)
  | .functionFile f => .functionFile (f.viewed view)

/-- A documentation in which a view of each comment stands in place of the comment. -/
def Documentation.viewed (docs : Documentation) : Documentation := Keyed.mapValues (Declaration.viewed view) docs

theorem Documentation.viewed_id (docs : Documentation) : Documentation.viewed id docs = docs := by
  have hproperty : PropertyDoc.viewed id = id := rfl
  have hmethod : MethodDoc.viewed id = id := rfl
  have hfunction : FunctionDoc.viewed id = id := rfl
  have hdeclaration : Declaration.viewed id = id := by
    funext d
    cases d with
    | classDoc c =>
      simp only [Declaration.viewed, ClassDoc.viewed, hproperty, hmethod, Keyed.mapValues_id]
      rfl
    | functionFile f =>
      simp only [Declaration.viewed, FunctionFileDoc.viewed, hfunction, Keyed.mapValues_id]
      rfl
  rw [Documentation.viewed, hdeclaration, Keyed.mapValues_id]

/-! ### Comments of records -/

/-- The comment that documents a declaration under some settings. -/
def commentOf (settings : Settings) (mode : Mode) (comments : List Comment) : Except BuildError Forms :=
  (parseComment settings mode (selectComment settings.commentSelection comments)).map fun parsed =>
    (selectComment settings.commentSelection comments, parsed)

theorem propertyDoc_eq_map (settings : Settings) (p : Property) (item : PropertyItem) :
    propertyDoc settings p item = (commentOf settings .plain (itemComments p item)).map fun c =>
      ⟨item.name, p.type.getD "", propertyDefault item.default, visibilityOf p.flags, isStatic p.flags, c.1, c.2⟩ := by
  rw [propertyDoc, commentOf]
  cases parseComment settings .plain (selectComment settings.commentSelection (itemComments p item)) <;> rfl

theorem functionDoc_eq_map (settings : Settings) (f : FunctionDecl) :
    functionDoc settings f = (commentOf settings .extract f.comments).map fun c =>
      ⟨f.name, f.returnType.getD "", f.params.map paramDoc, c.1, c.2⟩ := by
  rw [functionDoc, commentOf]
  cases parseComment settings .extract (selectComment settings.commentSelection f.comments) <;> rfl

theorem methodDoc_eq_map (settings : Settings) (m : Method) :
    methodDoc settings m = (commentOf settings .extract m.comments).map fun c =>
      ⟨⟨m.name, m.returnType.getD "", m.params.map paramDoc, c.1, c.2⟩, visibilityOf m.flags, isStatic m.flags,
        isAbstract m.flags, isFinal m.flags⟩ := by
  rw [methodDoc, commentOf]
  cases parseComment settings .extract (selectComment settings.commentSelection m.comments) <;> rfl

theorem classDoc_eq_bind (settings : Settings) (namespaceName : String) (c : ClassDecl) :
    classDoc settings namespaceName c = do
      let members ← c.members.foldlM (addMember settings) ⟨[], []⟩
      let comment ← commentOf settings .plain c.comments
      let properties ← (sortProperties members.properties).mapError .digits
      let methods ← (sortMethods members.methods).mapError .digits
      return ⟨c.name, namespaceName, comment.1, comment.2, properties, methods⟩ := by
  rw [classDoc, commentOf]
  cases c.members.foldlM (addMember settings) ⟨[], []⟩ with
  | error e => rfl
  | ok members =>
    cases parseComment settings .plain (selectComment settings.commentSelection c.comments) <;> rfl

theorem functionFileDoc_eq_bind (settings : Settings) (namespaceName : String) (comments : List Comment)
    (fs : List FunctionDecl) :
    functionFileDoc settings namespaceName (selectComment settings.commentSelection comments) fs = do
      let functions ← fs.foldlM (addFunction settings) []
      let comment ← commentOf settings .extract comments
      return ⟨namespaceName, comment.1, comment.2, functions⟩ := by
  rw [functionFileDoc, commentOf]
  cases fs.foldlM (addFunction settings) [] with
  | error e => rfl
  | ok functions =>
    cases parseComment settings .extract (selectComment settings.commentSelection comments) <;> rfl

/-! ### Classification of a retouched tree -/

variable {r : Retouch}

def Block.retouch (r : Retouch) (b : Block) : Block := ⟨b.name, b.body.map (Statement.retouch r)⟩

def ScopedClass.retouch (r : Retouch) (s : ScopedClass) : ScopedClass := ⟨s.namespaceName, s.decl.retouch r⟩

theorem isPrelude_retouch (s : Statement) : isPrelude (s.retouch r) = isPrelude s := by
  cases s <;> rw [Statement.retouch] <;> rfl

theorem ofStatement?_retouch (s : Statement) : Block.ofStatement? (s.retouch r) = (Block.ofStatement? s).map (Block.retouch r) := by
  cases s with
  | block name body comments line =>
    rw [retouch_block]
    rfl
  | _ =>
    rw [Statement.retouch]
    rfl

theorem classOf?_retouch (s : Statement) : classOf? (s.retouch r) = (classOf? s).map (ClassDecl.retouch r) := by
  cases s <;> rw [Statement.retouch] <;> rfl

theorem functionOf?_retouch (s : Statement) : functionOf? (s.retouch r) = (functionOf? s).map (FunctionDecl.retouch r) := by
  cases s <;> rw [Statement.retouch] <;> rfl

theorem classes_retouch (b : Block) : (b.retouch r).classes = b.classes.map (ScopedClass.retouch r) := by
  simp only [Block.classes, Block.retouch, List.filterMap_map, List.map_filterMap, Function.comp_def, classOf?_retouch,
    Option.map_map]
  rfl

theorem functions_retouch (b : Block) : (b.retouch r).functions = b.functions.map (FunctionDecl.retouch r) := by
  simp only [Block.functions, Block.retouch, List.filterMap_map, List.map_filterMap, Function.comp_def, functionOf?_retouch]

/-- The declarations to document, with their comments retouched. -/
def Classification.retouch (r : Retouch) (c : Classification) : Classification :=
  ⟨c.namespaceName, r.comments c.comments, c.classes.map (ScopedClass.retouch r), c.functions.map (FunctionDecl.retouch r)⟩

theorem ofBlocks_retouch (name : String) (comments : List Comment) (blocks : List Block) :
    ofBlocks name (r.comments comments) (blocks.map (Block.retouch r)) = (ofBlocks name comments blocks).retouch r := by
  have hclasses : (blocks.map (Block.retouch r)).flatMap Block.classes =
      (blocks.flatMap Block.classes).map (ScopedClass.retouch r) := by
    rw [List.flatMap_map, List.map_flatMap]
    exact congrArg (blocks.flatMap ·) (funext classes_retouch)
  have hfunctions : (blocks.map (Block.retouch r)).flatMap Block.functions =
      (blocks.flatMap Block.functions).map (FunctionDecl.retouch r) := by
    rw [List.flatMap_map, List.map_flatMap]
    exact congrArg (blocks.flatMap ·) (funext functions_retouch)
  rw [ofBlocks, ofBlocks, hclasses, hfunctions, List.isEmpty_map, Classification.retouch]
  split <;> rfl

theorem classify_retouch (hempty : r.comments [] = []) (t : SourceTree) :
    classify (t.retouch r) = (classify t).retouch r := by
  have hcode : (t.retouch r).statements.filter (fun s => !isPrelude s) =
      (t.statements.filter fun s => !isPrelude s).map (Statement.retouch r) := by
    rw [SourceTree.retouch, List.filter_map]
    congr 2
    funext s
    rw [Function.comp_apply, isPrelude_retouch]
  have hblocks (code : List Statement) : (code.map (Statement.retouch r)).filterMap Block.ofStatement? =
      (code.filterMap Block.ofStatement?).map (Block.retouch r) := by
    simp only [List.filterMap_map, List.map_filterMap, Function.comp_def, ofStatement?_retouch]
  rw [classify, classify, hcode]
  cases t.statements.filter fun s => !isPrelude s with
  | nil =>
    have hnil := @ofBlocks_retouch r "" [] [⟨"", []⟩]
    rwa [hempty] at hnil
  | cons s rest =>
    have hplain := @ofBlocks_retouch r "" [] [⟨"", s :: rest⟩]
    rw [hempty] at hplain
    cases s with
    | block name body comments line =>
      rw [← ofBlocks_retouch, ← hblocks, List.map_cons, retouch_block]
    | _ =>
      rw [List.map_cons, Statement.retouch]
      exact hplain

/-! ### The same under a view -/

/-- Settings under which, after retouching the second time, comments look the same. -/
structure LooksSame (view : Forms → Forms) (r : Retouch) (s s' : Settings) : Prop where
  empty_iff : ∀ comments, r.comments comments = [] ↔ comments = []
  comment : ∀ mode comments, (commentOf s mode comments).map view = (commentOf s' mode (r.comments comments)).map view

section

variable {view} {s s' : Settings} (h : LooksSame view r s s')
include h

theorem itemComments_retouch (p : Property) (item : PropertyItem) :
    itemComments (p.retouch r) (item.retouch r) = r.comments (itemComments p item) := by
  have hitem : (r.comments item.comments).isEmpty = item.comments.isEmpty := by
    rw [Bool.eq_iff_iff, List.isEmpty_iff, List.isEmpty_iff]
    exact h.empty_iff item.comments
  rw [itemComments, itemComments, PropertyItem.retouch, Property.retouch, hitem]
  split <;> rfl

theorem map_record_eq {β : Type} {record : Forms → β} {viewed : β → β} (hrecord : ∀ c, viewed (record c) = record (view c))
    (mode : Mode) (comments : List Comment) :
    ((commentOf s mode comments).map record).map viewed = ((commentOf s' mode (r.comments comments)).map record).map viewed := by
  have hview (x : Except BuildError Forms) : (x.map record).map viewed = (x.map view).map record := by
    rw [map_map, map_map]
    exact congrArg (x.map ·) (funext hrecord)
  rw [hview, hview, h.comment]

theorem map_propertyDoc_eq (p : Property) (item : PropertyItem) :
    (propertyDoc s p item).map (PropertyDoc.viewed view) =
      (propertyDoc s' (p.retouch r) (item.retouch r)).map (PropertyDoc.viewed view) := by
  rw [propertyDoc_eq_map, propertyDoc_eq_map, itemComments_retouch h]
  exact map_record_eq h (by intro c; rfl) .plain (itemComments p item)

theorem map_methodDoc_eq (m : Method) :
    (methodDoc s m).map (MethodDoc.viewed view) = (methodDoc s' (m.retouch r)).map (MethodDoc.viewed view) := by
  rw [methodDoc_eq_map, methodDoc_eq_map]
  exact map_record_eq h (by intro c; rfl) .extract m.comments

theorem map_functionDoc_eq (f : FunctionDecl) :
    (functionDoc s f).map (FunctionDoc.viewed view) = (functionDoc s' (f.retouch r)).map (FunctionDoc.viewed view) := by
  rw [functionDoc_eq_map, functionDoc_eq_map]
  exact map_record_eq h (by intro c; rfl) .extract f.comments

omit h in
/-- Writing records that look the same into tables that do gives tables that do. -/
theorem map_put_eq {β : Type} {viewed : β → β} {x x' : Except BuildError β} (hx : x.map viewed = x'.map viewed)
    {nameOf nameOf' : β → String} (hname : ∀ d d', viewed d = viewed d' → nameOf d = nameOf' d') {m m' : Keyed β}
    (hm : Keyed.mapValues viewed m = Keyed.mapValues viewed m') :
    (x.map fun d => Keyed.put (nameOf d) d m).map (Keyed.mapValues viewed) =
      (x'.map fun d => Keyed.put (nameOf' d) d m').map (Keyed.mapValues viewed) := by
  refine map_bind_eq hx fun d d' hd => congrArg Except.ok ?_
  rw [Keyed.mapValues_put, Keyed.mapValues_put, hd, hm, hname d d' hd]

theorem map_addItems_eq (p : Property) (items : List PropertyItem) {ps ps' : Keyed PropertyDoc}
    (hps : Keyed.mapValues (PropertyDoc.viewed view) ps = Keyed.mapValues (PropertyDoc.viewed view) ps') :
    (addItems s p ps items).map (Keyed.mapValues (PropertyDoc.viewed view)) =
      (addItems s' (p.retouch r) ps' (items.map (PropertyItem.retouch r))).map
        (Keyed.mapValues (PropertyDoc.viewed view)) := by
  rw [addItems_eq_foldlM, addItems_eq_foldlM]
  refine map_foldlM_eq (fun m m' item hm => ?_) items hps
  exact map_put_eq (map_propertyDoc_eq h p item) (fun d d' hd => congrArg PropertyDoc.name hd) hm

omit h in
/-- The members read so far, under a view. -/
def Members.viewed (view : Forms → Forms) (m : Members) : Members :=
  ⟨Keyed.mapValues (PropertyDoc.viewed view) m.properties, Keyed.mapValues (MethodDoc.viewed view) m.methods⟩

theorem map_addMember_eq {acc acc' : Members} (hacc : acc.viewed view = acc'.viewed view) (member : Member) :
    (addMember s acc member).map (Members.viewed view) =
      (addMember s' acc' (member.retouch r)).map (Members.viewed view) := by
  rw [Members.viewed, Members.viewed, Members.mk.injEq] at hacc
  obtain ⟨hproperties, hmethods⟩ := hacc
  cases member with
  | property p =>
    refine map_bind_eq (map_addItems_eq h p p.items hproperties) fun ps ps' hps => congrArg Except.ok ?_
    simp only [Members.viewed, hps, hmethods]
  | method m =>
    refine map_bind_eq (map_methodDoc_eq h m) fun d d' hd => congrArg Except.ok ?_
    have hname : d.name = d'.name := congrArg (fun d => d.name) hd
    simp only [Members.viewed, Keyed.mapValues_put, hproperties, hmethods, hd, hname]
  | other o =>
    refine congrArg Except.ok ?_
    simp only [Members.viewed, hproperties, hmethods]

omit h in
/-- Sorting only looks at names and flags, so it puts tables that look the same in the same order. -/
theorem map_sort_eq {β κ : Type} {viewed : β → β} {key : String × β → Except Number.TooManyDigits κ}
    (hkey : ∀ name d, key (name, viewed d) = key (name, d)) (order : κ → κ → Ordering) {m m' : Keyed β}
    (hm : Keyed.mapValues viewed m = Keyed.mapValues viewed m') :
    ((sortBy key order m).mapError BuildError.digits).map (Keyed.mapValues viewed) =
      ((sortBy key order m').mapError BuildError.digits).map (Keyed.mapValues viewed) := by
  have hsort (m : Keyed β) : ((sortBy key order m).mapError BuildError.digits).map (Keyed.mapValues viewed) =
      (sortBy key order (Keyed.mapValues viewed m)).mapError BuildError.digits := by
    have hmap : sortBy key order (Keyed.mapValues viewed m) = (sortBy key order m).map (Keyed.mapValues viewed) :=
      sortBy_map fun e => hkey e.1 e.2
    rw [hmap]
    cases sortBy key order m <;> rfl
  rw [hsort, hsort, hm]

theorem map_classDoc_eq (namespaceName : String) (c : ClassDecl) :
    (classDoc s namespaceName c).map (ClassDoc.viewed view) =
      (classDoc s' namespaceName (c.retouch r)).map (ClassDoc.viewed view) := by
  rw [classDoc_eq_bind, classDoc_eq_bind]
  have hmembers : (c.members.foldlM (addMember s) ⟨[], []⟩).map (Members.viewed view) =
      ((c.members.map (Member.retouch r)).foldlM (addMember s') ⟨[], []⟩).map (Members.viewed view) :=
    map_foldlM_eq (fun _ _ member hacc => map_addMember_eq h hacc member) c.members rfl
  refine map_bind_eq hmembers fun members members' hviewed => ?_
  rw [Members.viewed, Members.viewed, Members.mk.injEq] at hviewed
  refine map_bind_eq (h.comment .plain c.comments) fun comment comment' hcomment => ?_
  refine map_bind_eq (map_sort_eq (by intro _ _; rfl) Key.compare hviewed.1) fun properties properties' hproperties => ?_
  refine map_bind_eq (map_sort_eq (by intro _ _; rfl) MethodKey.compare hviewed.2) fun methods methods' hmethods => ?_
  refine congrArg Except.ok ?_
  simp only [ClassDoc.viewed, hcomment, hproperties, hmethods]
  rfl

theorem map_addFunction_eq {acc acc' : Keyed FunctionDoc}
    (hacc : Keyed.mapValues (FunctionDoc.viewed view) acc = Keyed.mapValues (FunctionDoc.viewed view) acc')
    (f : FunctionDecl) :
    (addFunction s acc f).map (Keyed.mapValues (FunctionDoc.viewed view)) =
      (addFunction s' acc' (f.retouch r)).map (Keyed.mapValues (FunctionDoc.viewed view)) := by
  refine map_bind_eq (map_functionDoc_eq h f) fun d d' hd => congrArg Except.ok ?_
  simp only [Keyed.mapValues_put, hacc, hd]
  rfl

theorem map_functionFileDoc_eq (namespaceName : String) (comments : List Comment) (fs : List FunctionDecl) :
    (functionFileDoc s namespaceName (selectComment s.commentSelection comments) fs).map (FunctionFileDoc.viewed view) =
      (functionFileDoc s' namespaceName (selectComment s'.commentSelection (r.comments comments))
        (fs.map (FunctionDecl.retouch r))).map (FunctionFileDoc.viewed view) := by
  rw [functionFileDoc_eq_bind, functionFileDoc_eq_bind]
  have hfunctions : (fs.foldlM (addFunction s) []).map (Keyed.mapValues (FunctionDoc.viewed view)) =
      ((fs.map (FunctionDecl.retouch r)).foldlM (addFunction s') []).map (Keyed.mapValues (FunctionDoc.viewed view)) :=
    map_foldlM_eq (fun _ _ f hacc => map_addFunction_eq h hacc f) fs rfl
  refine map_bind_eq hfunctions fun functions functions' hviewed => ?_
  refine map_bind_eq (h.comment .extract comments) fun comment comment' hcomment => congrArg Except.ok ?_
  simp only [FunctionFileDoc.viewed, hcomment, hviewed]

theorem map_addClass_eq {acc acc' : Documentation} (hacc : acc.viewed view = acc'.viewed view) (c : ScopedClass) :
    (addClass s acc c).map (Documentation.viewed view) = (addClass s' acc' (c.retouch r)).map (Documentation.viewed view) := by
  refine map_bind_eq (map_classDoc_eq h c.namespaceName c.decl) fun d d' hd => congrArg Except.ok ?_
  rw [Documentation.viewed, Documentation.viewed] at hacc
  have hrecord : (Declaration.classDoc d).viewed view = (Declaration.classDoc d').viewed view :=
    congrArg Declaration.classDoc hd
  rw [Documentation.viewed, Documentation.viewed, Keyed.mapValues_put, Keyed.mapValues_put, hacc, hrecord]
  rfl

/-- **Documentations look the same** if the comments of their records do. -/
theorem map_build_eq (t : SourceTree) :
    (build s t).map (Documentation.viewed view) = (build s' (t.retouch r)).map (Documentation.viewed view) := by
  simp only [build, classify_retouch ((h.empty_iff []).mpr rfl)]
  have hmode : ((classify t).retouch r).isFunctionFile = (classify t).isFunctionFile := List.isEmpty_map
  rw [hmode]
  split
  · refine map_bind_eq (map_functionFileDoc_eq h _ (classify t).comments (classify t).functions) fun d d' hd => ?_
    refine congrArg Except.ok ?_
    show [(noClassKey, Declaration.functionFile (d.viewed view))] = [(noClassKey, Declaration.functionFile (d'.viewed view))]
    rw [hd]
  · exact map_foldlM_eq (fun _ _ c hacc => map_addClass_eq h hacc c) (classify t).classes rfl

end

/-! ### Settings -/

structure SamePatterns (s s' : Settings) : Prop where
  ignored : s.ignoredLinePatterns = s'.ignoredLinePatterns
  notes : s.droppedNotePatterns = s'.droppedNotePatterns

variable {s s' : Settings}

theorem SamePatterns.parseComment_eq (h : SamePatterns s s') (mode : Mode) (raw : String) :
    parseComment s mode raw = parseComment s' mode raw := by
  rw [parseComment, parseComment, h.ignored, h.notes]

theorem selectComment_first (comments : List Comment) :
    selectComment .first comments = selectComment .last comments.reverse := by
  simp only [selectComment, List.getLast?_reverse]

theorem looksSame_noComment (hs : s.PatternsCompile) (hs' : s'.PatternsCompile) : LooksSame noComment .nothing s s' where
  empty_iff _ := Iff.rfl
  comment mode comments := by
    obtain ⟨parsed, hparsed⟩ := exists_parseComment hs mode (selectComment s.commentSelection comments)
    obtain ⟨parsed', hparsed'⟩ := exists_parseComment hs' mode (selectComment s'.commentSelection comments)
    have hcomment : commentOf s mode comments = .ok (selectComment s.commentSelection comments, parsed) := by
      rw [commentOf, hparsed]
      rfl
    have hcomment' : commentOf s' mode comments = .ok (selectComment s'.commentSelection comments, parsed') := by
      rw [commentOf, hparsed']
      rfl
    rw [hcomment]
    exact (congrArg (Except.map noComment) hcomment').symm

theorem looksSame_rawOnly (hs : s.PatternsCompile) (hs' : s'.PatternsCompile)
    (hselection : s.commentSelection = s'.commentSelection) : LooksSame rawOnly .nothing s s' where
  empty_iff _ := Iff.rfl
  comment mode comments := by
    obtain ⟨parsed, hparsed⟩ := exists_parseComment hs mode (selectComment s.commentSelection comments)
    obtain ⟨parsed', hparsed'⟩ := exists_parseComment hs' mode (selectComment s'.commentSelection comments)
    show (commentOf s mode comments).map rawOnly = (commentOf s' mode comments).map rawOnly
    rw [commentOf, commentOf, hparsed, hparsed', hselection]
    rfl

theorem looksSame_of_samePatterns (h : SamePatterns s s') (hselection : s.commentSelection = s'.commentSelection) :
    LooksSame id .nothing s s' where
  empty_iff _ := Iff.rfl
  comment mode comments := by
    show (commentOf s mode comments).map id = (commentOf s' mode comments).map id
    rw [commentOf, commentOf, h.parseComment_eq, hselection]

theorem looksSame_reversed (h : SamePatterns s s') (hfirst : s.commentSelection = .first)
    (hlast : s'.commentSelection = .last) : LooksSame id .reversed s s' where
  empty_iff _ := List.reverse_eq_nil_iff
  comment mode comments := by
    show (commentOf s mode comments).map id = (commentOf s' mode comments.reverse).map id
    rw [commentOf, commentOf, h.parseComment_eq, hfirst, hlast, selectComment_first]

theorem map_viewed_id (x : Except BuildError Documentation) : x.map (Documentation.viewed id) = x := by
  rw [funext Documentation.viewed_id]
  cases x <;> rfl

/-- **Settings influence comments only.** Documentations of one tree under two settings differ in their comments at most, or both cannot be built for one reason. With the same choice of comments they differ in how these are parsed, and with the same patterns as well they are equal. Choosing the first comment gives what choosing the last gives with the order of attached comments turned around. -/
theorem build_eq_up_to_comments (s s' : Settings) (t : SourceTree) :
    (s.PatternsCompile → s'.PatternsCompile →
        (build s t).map (Documentation.viewed noComment) = (build s' t).map (Documentation.viewed noComment)
        ∧ (s.commentSelection = s'.commentSelection →
          (build s t).map (Documentation.viewed rawOnly) = (build s' t).map (Documentation.viewed rawOnly)))
      ∧ (SamePatterns s s' → s.commentSelection = s'.commentSelection → build s t = build s' t)
      ∧ (SamePatterns s s' → s.commentSelection = .first → s'.commentSelection = .last →
        build s t = build s' (t.retouch .reversed)) := by
  refine ⟨fun hs hs' => ⟨?_, fun hselection => ?_⟩, fun hpatterns hselection => ?_, fun hpatterns hfirst hlast => ?_⟩
  · have hbuild := map_build_eq (looksSame_noComment hs hs') t
    rwa [t.retouch_nothing] at hbuild
  · have hbuild := map_build_eq (looksSame_rawOnly hs hs' hselection) t
    rwa [t.retouch_nothing] at hbuild
  · have hbuild := map_build_eq (looksSame_of_samePatterns hpatterns hselection) t
    rwa [t.retouch_nothing, map_viewed_id, map_viewed_id] at hbuild
  · have hbuild := map_build_eq (looksSame_reversed hpatterns hfirst hlast) t
    rwa [map_viewed_id, map_viewed_id] at hbuild

/-- A file with a class that has two comments, and a property that has those of its statement. -/
def twoComments : SourceTree :=
  ⟨[.block "App" [.classDecl ⟨"Counter",
    [.property ⟨[⟨"count", none, []⟩], 1, none, [⟨"/**\n * How many.\n */", 4, true⟩, ⟨"// later", 5, false⟩], 6⟩], 0,
    [⟨"/**\n * Counts.\n * FIXED twice.\n */", 1, true⟩, ⟨"/** */", 2, true⟩], 3⟩] [] 1], none⟩

/-- Settings that choose the first comment and drop no notes. -/
def firstComment : Settings := { Settings.default with commentSelection := .first, droppedNotePatterns := [] }

theorem patternsCompile_firstComment : firstComment.PatternsCompile :=
  ⟨patternsCompile_default.ignored, [], rfl⟩

theorem build_twoComments :
    firstComment.PatternsCompile ∧ build firstComment twoComments ≠ build Settings.default twoComments
      ∧ (build firstComment twoComments).map (Documentation.viewed noComment) =
        (build Settings.default twoComments).map (Documentation.viewed noComment)
      ∧ build { Settings.default with commentSelection := .first } twoComments =
        build Settings.default (twoComments.retouch .reversed) := by
  have hdiffer : build firstComment twoComments ≠ build Settings.default twoComments := by decide +kernel
  obtain ⟨hcomments, -, -⟩ := build_eq_up_to_comments firstComment Settings.default twoComments
  obtain ⟨-, -, hreversed⟩ :=
    build_eq_up_to_comments { Settings.default with commentSelection := .first } Settings.default twoComments
  exact ⟨patternsCompile_firstComment, hdiffer, (hcomments patternsCompile_firstComment patternsCompile_default).1,
    hreversed ⟨rfl, rfl⟩ rfl rfl⟩

end ApiDoc.Record
