import Mathlib.Data.List.Induction
import ApiDoc.Proofs.Record.Totality

/-!
# What the documentation of a file is

A specification of `build` in terms of the statements of a file, and that `build` meets it.

* `scannedBlocks` are the blocks that count: the namespaces of a file that starts with one, or else the whole file. Directives and text outside the code are left out first (`codeOf`).
* `Tabulated` says what a table of records is: the distinct names in order of first occurrence, each with the record of its last declaration. A table grows by one declaration at a time (`Tabulated.put`), so a fold over declarations makes one (`tabulated_of_foldlM`), and there is only one (`Tabulated.unique`).
* `Documents` puts the two together, and `documents_iff_of_build` compares it with `build`.
-/

namespace ApiDoc.Record

open Syntax DocComment

/-! ### What is scanned -/

/-- A directive, or text outside the code. -/
def IsAside : Statement → Prop
  | .other o => o.kind = "Stmt_Declare" ∨ o.kind = "Stmt_InlineHTML"
  | _ => False

instance : DecidablePred IsAside
  | .other o => inferInstanceAs (Decidable (o.kind = "Stmt_Declare" ∨ o.kind = "Stmt_InlineHTML"))
  | .block .. | .classDecl _ | .functionDecl _ => inferInstanceAs (Decidable False)

/-- The statements of a file that count. -/
def codeOf (t : SourceTree) : List Statement := t.statements.filter fun s => ¬ IsAside s

/-- The namespaces among some statements, each with its own name. -/
def namespacesOf (code : List Statement) : List Block :=
  code.flatMap fun
    | .block name body _ _ => [⟨name, body⟩]
    | _ => []

/-- The blocks of a file that are scanned. -/
def scannedBlocks (t : SourceTree) : List Block :=
  match codeOf t with
  | .block name body comments line :: rest => namespacesOf (.block name body comments line :: rest)
  | code => [⟨"", code⟩]

/-- The comments of the namespace that a file starts with. -/
def fileComments (t : SourceTree) : List Comment :=
  match codeOf t with
  | .block _ _ comments _ :: _ => comments
  | _ => []

/-- The classes that stand directly in the scanned blocks, each with the name of its block. -/
def scannedClasses (t : SourceTree) : List ScopedClass :=
  (scannedBlocks t).flatMap fun b => b.body.flatMap fun
    | .classDecl c => [⟨b.name, c⟩]
    | _ => []

def scannedFunctions (t : SourceTree) : List FunctionDecl :=
  (scannedBlocks t).flatMap fun b => b.body.flatMap fun
    | .functionDecl f => [f]
    | _ => []

def HoldsClass (t : SourceTree) : Prop := ∃ b ∈ scannedBlocks t, ∃ c, Statement.classDecl c ∈ b.body

/-- The text of the comment that counts among those of a declaration. -/
inductive Chosen : CommentSelection → List Comment → String → Prop
  | none (selection : CommentSelection) : Chosen selection [] ""
  | first (c : Comment) (after : List Comment) : Chosen .first (c :: after) c.text
  | last (before : List Comment) (c : Comment) : Chosen .last (before ++ [c]) c.text

/-! ### Classification by what is scanned -/

theorem filter_isPrelude (t : SourceTree) : (t.statements.filter fun s => !isPrelude s) = codeOf t := by
  rw [codeOf]
  congr 1
  funext s
  cases s with
  | other o => simp [isPrelude, preludeKinds, IsAside]
  | block => simp [isPrelude, IsAside]
  | classDecl => simp [isPrelude, IsAside]
  | functionDecl => simp [isPrelude, IsAside]

theorem filterMap_ofStatement? (code : List Statement) : code.filterMap Block.ofStatement? = namespacesOf code := by
  rw [namespacesOf, List.filterMap_eq_flatMap_toList]
  congr 1
  funext s
  cases s <;> rfl

theorem flatMap_classes (t : SourceTree) : (scannedBlocks t).flatMap Block.classes = scannedClasses t := by
  rw [scannedClasses]
  congr 1
  funext b
  rw [Block.classes, List.map_filterMap, List.filterMap_eq_flatMap_toList]
  congr 1
  funext s
  cases s <;> rfl

theorem flatMap_functions (t : SourceTree) : (scannedBlocks t).flatMap Block.functions = scannedFunctions t := by
  rw [scannedFunctions]
  congr 1
  funext b
  rw [Block.functions, List.filterMap_eq_flatMap_toList]
  congr 1
  funext s
  cases s <;> rfl

theorem scannedClasses_eq_nil_iff (t : SourceTree) : scannedClasses t = [] ↔ ¬ HoldsClass t := by
  simp only [scannedClasses, HoldsClass, List.flatMap_eq_nil_iff, not_exists, not_and]
  refine forall₂_congr fun b _ => ⟨fun h c hc => by simpa using h _ hc, fun h s hs => ?_⟩
  cases s with
  | classDecl c => exact absurd hs (h c)
  | _ => rfl

def firstName (t : SourceTree) : String := ((scannedBlocks t).head?.map Block.name).getD ""

theorem classify_eq (t : SourceTree) : classify t = ofBlocks (firstName t) (fileComments t) (scannedBlocks t) := by
  rw [classify, filter_isPrelude, firstName, fileComments, scannedBlocks]
  rcases codeOf t with _ | ⟨s, rest⟩
  · rfl
  · cases s with
    | block name body comments line =>
      simp only [filterMap_ofStatement?]
      rfl
    | _ => rfl

theorem classes_classify (t : SourceTree) : (classify t).classes = scannedClasses t := by
  rw [classify_eq, ofBlocks, flatMap_classes]

theorem isFunctionFile_iff (t : SourceTree) : (classify t).isFunctionFile = true ↔ ¬ HoldsClass t := by
  rw [Classification.isFunctionFile, classes_classify, List.isEmpty_iff, scannedClasses_eq_nil_iff]

theorem functions_classify {t : SourceTree} (h : ¬ HoldsClass t) : (classify t).functions = scannedFunctions t := by
  have hempty := (isFunctionFile_iff t).mpr h
  rw [Classification.isFunctionFile, classify_eq, ofBlocks] at hempty
  rw [classify_eq, ofBlocks, if_pos hempty, flatMap_functions]

theorem chosen_iff {selection : CommentSelection} {comments : List Comment} {raw : String} :
    Chosen selection comments raw ↔ raw = selectComment selection comments := by
  constructor
  · rintro (_ | _ | _)
    · cases selection <;> rfl
    · rfl
    · simp [selectComment]
  · rintro rfl
    cases selection with
    | first =>
      cases comments with
      | nil => exact .none .first
      | cons c after => exact .first c after
    | last =>
      rcases List.eq_nil_or_concat comments with rfl | ⟨before, c, rfl⟩
      · exact .none .last
      · have hlast := Chosen.last before c
        simpa [selectComment] using hlast

/-! ### Tables of records -/

section Table

variable {α β ε : Type} {nameOf : α → String} {record : α → Except ε β}

/-- A table of the records of some declarations: the distinct names in order of first occurrence, each with the record of its last declaration. -/
structure Tabulated (nameOf : α → String) (record : α → Except ε β) (xs : List α) (m : Keyed β) : Prop where
  keys_eq : Keyed.keys m = (xs.map nameOf).eraseDups
  get?_iff : ∀ name y, Keyed.get? name m = some y ↔ ∃ x, Keyed.last? nameOf name xs = some x ∧ record x = .ok y

theorem eraseDups_concat (names : List String) (name : String) :
    (names ++ [name]).eraseDups = if name ∈ names then names.eraseDups else names.eraseDups ++ [name] := by
  rw [List.eraseDups_append]
  by_cases h : name ∈ names <;> simp [List.removeAll, List.eraseDups_cons, h]

theorem nodup_eraseDups (names : List String) : names.eraseDups.Nodup := by
  induction names using List.reverseRecOn with
  | nil => simp
  | append_singleton names name ih =>
    rw [eraseDups_concat]
    split
    · exact ih
    · rename_i hname
      refine List.nodup_append'.mpr ⟨ih, List.nodup_singleton name, ?_⟩
      rwa [List.disjoint_singleton, List.mem_eraseDups]

theorem tabulated_nil : Tabulated nameOf record [] [] where
  keys_eq := rfl
  get?_iff name y := by simp [Keyed.last?]

theorem Tabulated.put {xs : List α} {m : Keyed β} (h : Tabulated nameOf record xs m) {x : α} {y : β} (hy : record x = .ok y) :
    Tabulated nameOf record (xs ++ [x]) (Keyed.put (nameOf x) y m) where
  keys_eq := by
    rw [Keyed.keys_put, h.keys_eq, List.map_append, List.map_singleton, eraseDups_concat]
    simp only [List.mem_eraseDups]
  get?_iff name y' := by
    rw [Keyed.get?_put, Keyed.last?_append, Keyed.last?_cons]
    by_cases hname : nameOf x = name
    · simp [hname, Keyed.last?, hy]
    · simpa [hname, Keyed.last?] using h.get?_iff name y'

theorem tabulated_of_foldlM {add : Keyed β → α → Except ε (Keyed β)}
    (hadd : ∀ m x, add m x = (record x).map fun y => Keyed.put (nameOf x) y m) {xs : List α} {m : Keyed β}
    (h : xs.foldlM add [] = .ok m) : Tabulated nameOf record xs m := by
  induction xs using List.reverseRecOn generalizing m with
  | nil =>
    obtain rfl := Except.ok.inj h
    exact tabulated_nil
  | append_singleton xs x ih =>
    rw [List.foldlM_append] at h
    obtain ⟨m', hm', hx⟩ := bind_eq_ok_iff.mp h
    obtain ⟨m'', hm'', hnil⟩ := bind_eq_ok_iff.mp hx
    obtain rfl := Except.ok.inj hnil
    rw [hadd] at hm''
    obtain ⟨y, hy, rfl⟩ := map_eq_ok_iff.mp hm''
    exact (ih hm').put hy

theorem Tabulated.unique {xs : List α} {m m' : Keyed β} (h : Tabulated nameOf record xs m) (h' : Tabulated nameOf record xs m') :
    m = m' := by
  refine Keyed.eq_of_keys_eq ?_ (h.keys_eq.trans h'.keys_eq.symm) fun name => ?_
  · rw [h.keys_eq]
    exact nodup_eraseDups _
  · refine Option.ext fun y => ?_
    rw [h.get?_iff, h'.get?_iff]

theorem Tabulated.mem_iff {xs : List α} {m : Keyed β} (h : Tabulated nameOf record xs m) {name : String} {y : β} :
    (name, y) ∈ m ↔ ∃ x, Keyed.last? nameOf name xs = some x ∧ record x = .ok y := by
  rw [← h.get?_iff, Keyed.mem_iff_get?]
  rw [h.keys_eq]
  exact nodup_eraseDups _

end Table

/-! ### The specification -/

variable {settings : Settings}

/-- The record of a class in the documentation of a file. -/
def classRecord (settings : Settings) (s : ScopedClass) : Except BuildError Declaration :=
  (classDoc settings s.namespaceName s.decl).map .classDoc

/-- The documentation that a file has. -/
inductive Documents (settings : Settings) (t : SourceTree) : Documentation → Prop
  /-- Where a scanned block holds a class, the classes are documented and nothing else. -/
  | classes {docs : Documentation} (hclass : HoldsClass t)
      (htable : Tabulated (fun s => s.decl.name) (classRecord settings) (scannedClasses t) docs) : Documents settings t docs
  /-- Where no scanned block does, the functions are documented in one record. -/
  | functions {file : FunctionFileDoc} (hclass : ¬ HoldsClass t)
      (hname : (scannedBlocks t).head?.map Block.name = some file.namespaceName)
      (hraw : Chosen settings.commentSelection (fileComments t) file.rawComment)
      (hparsed : parseComment settings .extract file.rawComment = .ok file.parsedComment)
      (htable : Tabulated FunctionDecl.name (functionDoc settings) (scannedFunctions t) file.functions) :
      Documents settings t [("NOCLASS", .functionFile file)]

theorem Documents.unique {t : SourceTree} {docs docs' : Documentation} (h : Documents settings t docs)
    (h' : Documents settings t docs') : docs = docs' := by
  cases h with
  | classes hclass htable =>
    cases h' with
    | classes _ htable' => exact htable.unique htable'
    | functions hclass' => exact absurd hclass hclass'
  | @functions file hclass hname hraw hparsed htable =>
    cases h' with
    | classes hclass' => exact absurd hclass' hclass
    | @functions file' _ hname' hraw' hparsed' htable' =>
      obtain ⟨namespaceName, raw, parsed, functions⟩ := file
      obtain rfl : namespaceName = file'.namespaceName := Option.some.inj (hname.symm.trans hname')
      obtain rfl : raw = file'.rawComment := (chosen_iff.mp hraw).trans (chosen_iff.mp hraw').symm
      obtain rfl : parsed = file'.parsedComment := Except.ok.inj (hparsed.symm.trans hparsed')
      obtain rfl : functions = file'.functions := htable.unique htable'
      rfl

/-! ### What is built -/

theorem addClass_eq_map (docs : Documentation) (s : ScopedClass) :
    addClass settings docs s = (classRecord settings s).map fun d => Keyed.put s.decl.name d docs := by
  rw [addClass_eq, classRecord]
  cases classDoc settings s.namespaceName s.decl <;> rfl

theorem addFunction_eq_map (m : Keyed FunctionDoc) (f : FunctionDecl) :
    addFunction settings m f = (functionDoc settings f).map fun d => Keyed.put f.name d m := by
  rw [addFunction]
  cases functionDoc settings f <;> rfl

theorem head?_scannedBlocks (t : SourceTree) : (scannedBlocks t).head?.map Block.name = some (firstName t) := by
  rw [firstName, scannedBlocks]
  split <;> rfl

theorem tabulated_classes {t : SourceTree} {docs : Documentation} (hclass : HoldsClass t) (h : build settings t = .ok docs) :
    Tabulated (fun s => s.decl.name) (classRecord settings) (scannedClasses t) docs := by
  have hfile : ¬ (classify t).isFunctionFile = true := fun hfile => (isFunctionFile_iff t).mp hfile hclass
  simp only [build, if_neg hfile, classes_classify] at h
  exact tabulated_of_foldlM addClass_eq_map h

theorem exists_functionFile {t : SourceTree} {docs : Documentation} (hclass : ¬ HoldsClass t) (h : build settings t = .ok docs) :
    ∃ file, functionFileDoc settings (firstName t) (selectComment settings.commentSelection (fileComments t))
        (scannedFunctions t) = .ok file
      ∧ docs = [("NOCLASS", .functionFile file)] := by
  simp only [build, if_pos ((isFunctionFile_iff t).mpr hclass), functions_classify hclass] at h
  obtain ⟨file, hfile, hdocs⟩ := bind_eq_ok_iff.mp h
  rw [classify_eq] at hfile
  exact ⟨file, hfile, (Except.ok.inj hdocs).symm⟩

theorem functionFileDoc_spec {namespaceName raw : String} {fs : List FunctionDecl} {file : FunctionFileDoc}
    (h : functionFileDoc settings namespaceName raw fs = .ok file) :
    file.namespaceName = namespaceName ∧ file.rawComment = raw
      ∧ parseComment settings .extract raw = .ok file.parsedComment
      ∧ Tabulated FunctionDecl.name (functionDoc settings) fs file.functions := by
  obtain ⟨functions, hfunctions, h⟩ := bind_eq_ok_iff.mp h
  obtain ⟨parsed, hparsed, h⟩ := bind_eq_ok_iff.mp h
  obtain rfl := Except.ok.inj h
  exact ⟨rfl, rfl, hparsed, tabulated_of_foldlM addFunction_eq_map hfunctions⟩

theorem documents_of_build {t : SourceTree} {docs : Documentation} (h : build settings t = .ok docs) :
    Documents settings t docs := by
  by_cases hclass : HoldsClass t
  · exact .classes hclass (tabulated_classes hclass h)
  · obtain ⟨file, hfile, rfl⟩ := exists_functionFile hclass h
    obtain ⟨hname, hraw, hparsed, htable⟩ := functionFileDoc_spec hfile
    refine .functions hclass ?_ ?_ ?_ htable
    · rw [hname, head?_scannedBlocks]
    · rw [hraw, chosen_iff]
    · rw [hraw, hparsed]

/-- An entry of the documentation of a file with classes is the record of the last class of its name, which has that name. -/
theorem exists_class_of_mem {t : SourceTree} {docs : Documentation} (hclass : HoldsClass t) (h : build settings t = .ok docs)
    {name : String} {d : Declaration} (hmem : (name, d) ∈ docs) :
    ∃ s doc, Keyed.last? (fun s => s.decl.name) name (scannedClasses t) = some s
      ∧ classDoc settings s.namespaceName s.decl = .ok doc ∧ d = .classDoc doc ∧ doc.name = name := by
  obtain ⟨s, hlast, hrecord⟩ := (tabulated_classes hclass h).mem_iff.mp hmem
  obtain ⟨doc, hdoc, rfl⟩ := map_eq_ok_iff.mp hrecord
  have hname := Keyed.nameOf_last? hlast
  exact ⟨s, doc, hlast, hdoc, rfl, (named_of_classDoc hdoc).1.trans hname⟩

/-- **`build` meets its specification.** What it returns is the documentation of the file and nothing else is. Where a scanned block holds a class, every record is that of a class and stands under the class's name. -/
theorem documents_iff_of_build {t : SourceTree} {docs : Documentation} (h : build settings t = .ok docs) :
    (∀ docs', Documents settings t docs' ↔ docs' = docs)
      ∧ (HoldsClass t → ∀ name d, (name, d) ∈ docs → ∃ doc, d = .classDoc doc ∧ doc.name = name) := by
  constructor
  · intro docs'
    refine ⟨fun h' => h'.unique (documents_of_build h), ?_⟩
    rintro rfl
    exact documents_of_build h
  · intro hclass name d hmem
    obtain ⟨_, doc, -, -, hd, hname⟩ := exists_class_of_mem hclass h hmem
    exact ⟨doc, hd, hname⟩

def bareClass (name : String) (line : Int) : Statement := .classDecl ⟨name, [], 0, [], line⟩

def bareClassDoc (name namespaceName : String) : Declaration := .classDoc ⟨name, namespaceName, "", none, [], []⟩

/-- A file with a class in two namespaces, a function, and text between the namespaces. -/
def twoBlocks : SourceTree :=
  ⟨[.other ⟨"Stmt_Declare", [], 1⟩, .block "A" [bareClass "X" 3, .functionDecl ⟨"f", [], none, [], 4⟩] [] 2,
    .other ⟨"Stmt_InlineHTML", [], 5⟩, .block "B" [bareClass "Y" 7, bareClass "X" 8] [] 6], none⟩

theorem documents_twoBlocks :
    build Settings.default twoBlocks = .ok [("X", bareClassDoc "X" "B"), ("Y", bareClassDoc "Y" "B")]
      ∧ ∀ docs, Documents Settings.default twoBlocks docs ↔ docs = [("X", bareClassDoc "X" "B"), ("Y", bareClassDoc "Y" "B")] := by
  have hbuild : build Settings.default twoBlocks = .ok [("X", bareClassDoc "X" "B"), ("Y", bareClassDoc "Y" "B")] := by
    decide +kernel
  exact ⟨hbuild, (documents_iff_of_build hbuild).1⟩

end ApiDoc.Record
