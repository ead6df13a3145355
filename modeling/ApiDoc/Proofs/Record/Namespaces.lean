import ApiDoc.Proofs.Record.Documents

/-!
# The namespace of a record

Where a file starts with a namespace, every declaration that is documented comes from one of its namespaces (`lastClass?`, `lastFunction?`). The record of a class names the namespace that its class was taken from. The record of the functions of a file has room for one name only, that of the first namespace; so it names the right one for exactly those functions that come from a namespace of that name (`namespaceName_of_build`).
-/

namespace ApiDoc.Record

open Syntax

variable {settings : Settings}

/-- The declarations of one sort that stand directly in the namespaces of a file, each with its namespace. -/
def declared {α : Type} (pick : Statement → Option α) (t : SourceTree) : List (Block × α) :=
  (namespacesOf t.statements).flatMap fun b => (b.body.filterMap pick).map fun x => (b, x)

/-- The last class of a name, with the namespace that declares it. -/
def lastClass? (t : SourceTree) (name : String) : Option (Block × ClassDecl) :=
  Keyed.last? (fun e => e.2.name) name (declared classOf? t)

/-- The last function of a name, with the namespace that declares it. -/
def lastFunction? (t : SourceTree) (name : String) : Option (Block × FunctionDecl) :=
  Keyed.last? (fun e => e.2.name) name (declared functionOf? t)

/-- A record names the namespace of every declaration that it documents. -/
def NamesHome (t : SourceTree) : Declaration → Prop
  | .classDoc doc => ∃ b c, lastClass? t doc.name = some (b, c) ∧ doc.namespaceName = b.name
  | .functionFile file =>
    ∀ name ∈ Keyed.keys file.functions, ∃ b f, lastFunction? t name = some (b, f) ∧ file.namespaceName = b.name

/-! ### Where declarations come from -/

theorem namespacesOf_codeOf (t : SourceTree) : namespacesOf (codeOf t) = namespacesOf t.statements := by
  rw [codeOf]
  generalize t.statements = statements
  induction statements with
  | nil => rfl
  | cons s rest ih =>
    by_cases haside : IsAside s
    · have hdrop : namespacesOf (s :: rest) = namespacesOf rest := by
        cases s with
        | other o => rfl
        | _ => exact absurd haside (by simp [IsAside])
      rw [List.filter_cons_of_neg (by simpa using haside), ih, hdrop]
    · rw [List.filter_cons_of_pos (by simpa using haside), namespacesOf, namespacesOf, List.flatMap_cons, List.flatMap_cons]
      exact congrArg (_ ++ ·) ih

section

variable {t : SourceTree} {name : String} {body : List Statement} {comments : List Comment} {line : Int} {rest : List Statement}
  (hstart : codeOf t = .block name body comments line :: rest)
include hstart

theorem scannedBlocks_of_start : scannedBlocks t = namespacesOf t.statements := by
  rw [← namespacesOf_codeOf, scannedBlocks, hstart]

theorem firstName_of_start : firstName t = name := by
  rw [firstName, scannedBlocks, hstart]
  rfl

theorem scannedClasses_of_start : scannedClasses t = (declared classOf? t).map fun e => ⟨e.1.name, e.2⟩ := by
  rw [← flatMap_classes, scannedBlocks_of_start hstart, declared, List.map_flatMap]
  congr 1
  funext b
  rw [Block.classes, List.map_map]
  rfl

theorem scannedFunctions_of_start : scannedFunctions t = (declared functionOf? t).map Prod.snd := by
  rw [← flatMap_functions, scannedBlocks_of_start hstart, declared, List.map_flatMap]
  congr 1
  funext b
  rw [Block.functions, List.map_map]
  exact (List.map_id _).symm

theorem last?_scannedClasses {className : String} {s : ScopedClass}
    (h : Keyed.last? (fun s => s.decl.name) className (scannedClasses t) = some s) :
    ∃ b, lastClass? t className = some (b, s.decl) ∧ s.namespaceName = b.name := by
  rw [scannedClasses_of_start hstart, Keyed.last?_map] at h
  obtain ⟨⟨b, c⟩, hlast, rfl⟩ := Option.map_eq_some_iff.mp h
  exact ⟨b, hlast, rfl⟩

theorem last?_scannedFunctions {functionName : String} {f : FunctionDecl}
    (h : Keyed.last? FunctionDecl.name functionName (scannedFunctions t) = some f) :
    ∃ b, lastFunction? t functionName = some (b, f) := by
  rw [scannedFunctions_of_start hstart, Keyed.last?_map] at h
  obtain ⟨⟨b, f⟩, hlast, rfl⟩ := Option.map_eq_some_iff.mp h
  exact ⟨b, hlast⟩

end

/-! ### What records name -/

/-- **Where a file starts with a namespace,** the record of a class is that of the last class of its name, under the name of the namespace that declares it. A function in the record of a file is the last one of its name; the record names its namespace if and only if that has the name of the first one. -/
theorem namespaceName_of_build {t : SourceTree} {name : String} {body : List Statement} {comments : List Comment} {line : Int}
    {rest : List Statement} (hstart : codeOf t = .block name body comments line :: rest) {docs : Documentation}
    (h : build settings t = .ok docs) :
    (∀ key doc, (key, .classDoc doc) ∈ docs →
        ∃ b c, lastClass? t doc.name = some (b, c) ∧ classDoc settings b.name c = .ok doc ∧ doc.namespaceName = b.name)
      ∧ ∀ key file, (key, .functionFile file) ∈ docs → file.namespaceName = name
        ∧ ∀ functionName doc, (functionName, doc) ∈ file.functions →
          ∃ b f, lastFunction? t functionName = some (b, f) ∧ functionDoc settings f = .ok doc
            ∧ (file.namespaceName = b.name ↔ b.name = name) := by
  constructor
  · intro key doc hmem
    by_cases hclass : HoldsClass t
    · obtain ⟨s, doc', hlast, hdoc, heq, hname⟩ := exists_class_of_mem hclass h hmem
      obtain rfl := Declaration.classDoc.inj heq
      obtain ⟨b, hb, hscope⟩ := last?_scannedClasses hstart hlast
      subst hname
      rw [hscope] at hdoc
      exact ⟨b, s.decl, hb, hdoc, (named_of_classDoc hdoc).2⟩
    · obtain ⟨file, -, rfl⟩ := exists_functionFile hclass h
      simp at hmem
  · intro key file hmem
    by_cases hclass : HoldsClass t
    · obtain ⟨_, _, -, -, heq, -⟩ := exists_class_of_mem hclass h hmem
      cases heq
    · obtain ⟨file', hfile, rfl⟩ := exists_functionFile hclass h
      obtain ⟨-, rfl⟩ : key = "NOCLASS" ∧ file = file' := by simpa using hmem
      obtain ⟨hnamespace, -, -, htable⟩ := functionFileDoc_spec hfile
      rw [firstName_of_start hstart] at hnamespace
      refine ⟨hnamespace, fun functionName doc hdoc => ?_⟩
      obtain ⟨f, hlast, hf⟩ := htable.mem_iff.mp hdoc
      obtain ⟨b, hb⟩ := last?_scannedFunctions hstart hlast
      exact ⟨b, f, hb, hf, by rw [hnamespace, eq_comm]⟩

def bareFunction (name : String) : Statement := .functionDecl ⟨name, [], none, [], -1⟩

def bareFunctionDoc (name : String) : FunctionDoc := ⟨name, "", [], "", none⟩

def twoFunctionBlocks : SourceTree := ⟨[.block "A" [bareFunction "f"] [] (-1), .block "B" [bareFunction "g"] [] (-1)], none⟩

def twoFunctionsDoc : FunctionFileDoc := ⟨"A", "", none, [("f", bareFunctionDoc "f"), ("g", bareFunctionDoc "g")]⟩

theorem namespaceName_twoFunctionBlocks :
    codeOf twoFunctionBlocks = .block "A" [bareFunction "f"] [] (-1) :: [.block "B" [bareFunction "g"] [] (-1)]
      ∧ build Settings.default twoFunctionBlocks = .ok [("NOCLASS", .functionFile twoFunctionsDoc)]
      ∧ (∃ b f, lastFunction? twoFunctionBlocks "f" = some (b, f) ∧ twoFunctionsDoc.namespaceName = b.name)
      ∧ ∃ b f, lastFunction? twoFunctionBlocks "g" = some (b, f) ∧ twoFunctionsDoc.namespaceName ≠ b.name := by
  have hstart : codeOf twoFunctionBlocks = .block "A" [bareFunction "f"] [] (-1) :: [.block "B" [bareFunction "g"] [] (-1)] := rfl
  have hbuild : build Settings.default twoFunctionBlocks = .ok [("NOCLASS", .functionFile twoFunctionsDoc)] := by
    decide +kernel
  obtain ⟨-, hfile⟩ := namespaceName_of_build hstart hbuild
  obtain ⟨-, hfunctions⟩ := hfile "NOCLASS" twoFunctionsDoc (List.mem_singleton_self _)
  obtain ⟨a, f, hf, -, hfirst⟩ := hfunctions "f" (bareFunctionDoc "f") (by simp [twoFunctionsDoc])
  obtain ⟨b, g, hg, -, hlater⟩ := hfunctions "g" (bareFunctionDoc "g") (by simp [twoFunctionsDoc])
  obtain rfl : (⟨"A", [bareFunction "f"]⟩ : Block) = a := (Prod.mk.inj (Option.some.inj hf)).1
  obtain rfl : (⟨"B", [bareFunction "g"]⟩ : Block) = b := (Prod.mk.inj (Option.some.inj hg)).1
  exact ⟨hstart, hbuild, ⟨_, f, hf, hfirst.mpr rfl⟩, _, g, hg, fun hname => absurd (hlater.mp hname) (by decide)⟩

/-- A file whose only function stands in the second namespace. -/
def laterFunction : SourceTree := ⟨[.block "A" [] [] (-1), .block "B" [bareFunction "g"] [] (-1)], none⟩

theorem not_always_namesHome :
    ¬ ∀ (settings : Settings) (t : SourceTree) (name : String) (body : List Statement) (comments : List Comment) (line : Int)
        (rest : List Statement) (docs : Documentation), codeOf t = .block name body comments line :: rest →
      build settings t = .ok docs → ∀ key record, (key, record) ∈ docs → NamesHome t record := by
  intro h
  have hbuild : build Settings.default laterFunction =
      .ok [("NOCLASS", .functionFile ⟨"A", "", none, [("g", bareFunctionDoc "g")]⟩)] := by
    decide +kernel
  have hhome := h Settings.default laterFunction "A" [] [] (-1) [.block "B" [bareFunction "g"] [] (-1)] _ rfl hbuild _ _
    (List.mem_singleton_self _)
  obtain ⟨b, f, hb, hname⟩ := hhome "g" (List.mem_singleton_self _)
  obtain rfl : (⟨"B", [bareFunction "g"]⟩ : Block) = b := (Prod.mk.inj (Option.some.inj hb)).1
  exact absurd hname (by decide)

end ApiDoc.Record
