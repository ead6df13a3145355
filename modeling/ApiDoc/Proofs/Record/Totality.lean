import ApiDoc.Proofs.Record.Members
import ApiDoc.Syntax.Dump

/-!
# When a dump cannot be documented

Every list of JSON values is read as a tree, whatever it holds, and only one thing keeps a tree from being documented: a class among those that are documented declares a property or a method whose name has too many digits in a row to be ordered (`HasLongName`). The fault is then one of digits. Functions are not ordered, so a file without classes is always documented.
-/

namespace ApiDoc.Record

open Syntax NaturalOrder

variable {settings : Settings}

/-- A class that is documented declares a name with a long run of digits. -/
def HasLongName (t : SourceTree) : Prop :=
  ∃ s ∈ (classify t).classes, ∃ name, Declares s.decl.members name ∧ HasLongDigits name

/-! ### Classes -/

/-- A class is documented exactly when none of its names has a long run of digits. -/
theorem exists_classDoc_eq_ok_iff (hs : settings.PatternsCompile) {namespaceName : String} {c : ClassDecl} :
    (∃ doc, classDoc settings namespaceName c = .ok doc) ↔ ∀ name, Declares c.members name → ¬ HasLongDigits name := by
  obtain ⟨ps, ms, parsed, hps, hms, hparsed⟩ := exists_memberDocs hs c
  have hproperties : (∃ r, sortProperties (Keyed.putAll PropertyDoc.name ps []) = .ok r) ↔
      ∀ name ∈ propertyNames c.members, ¬ HasLongDigits name := by
    rw [propertyNames, ← map_name_of_mapM (fun _ _ => name_of_propertyDoc) hps]
    exact exists_sortBy_putAll_iff (tellsNames_naturalKey PropertyDoc.name) Key.compare
  have hmethods : (∃ r, sortMethods (Keyed.putAll (fun d => d.name) ms []) = .ok r) ↔
      ∀ name ∈ methodNames c.members, ¬ HasLongDigits name := by
    rw [methodNames, ← map_name_of_mapM (fun _ _ => name_of_methodDoc) hms]
    exact exists_sortBy_putAll_iff tellsNames_methodKey MethodKey.compare
  have hnames : (∀ name, Declares c.members name → ¬ HasLongDigits name) ↔
      (∀ name ∈ propertyNames c.members, ¬ HasLongDigits name) ∧ ∀ name ∈ methodNames c.members, ¬ HasLongDigits name :=
    ⟨fun h => ⟨fun name hname => h name (.inl hname), fun name hname => h name (.inr hname)⟩,
      fun h name hname => hname.elim (h.1 name) (h.2 name)⟩
  rw [hnames, ← hproperties, ← hmethods, classDoc_eq hps hms hparsed]
  simp only [bind_eq_ok_iff, mapError_eq_ok_iff]
  constructor
  · rintro ⟨_, properties, hp, methods, hm, -⟩
    exact ⟨⟨properties, hp⟩, methods, hm⟩
  · rintro ⟨⟨properties, hp⟩, methods, hm⟩
    exact ⟨_, properties, hp, methods, hm, rfl⟩

theorem eq_digits_of_classDoc (hs : settings.PatternsCompile) {namespaceName : String} {c : ClassDecl} {e : BuildError}
    (h : classDoc settings namespaceName c = .error e) : ∃ d, e = .digits d := by
  obtain ⟨ps, ms, parsed, hps, hms, hparsed⟩ := exists_memberDocs hs c
  rw [classDoc_eq hps hms hparsed] at h
  cases hp : sortProperties (Keyed.putAll PropertyDoc.name ps []) with
  | error d =>
    rw [hp] at h
    exact ⟨d, (Except.error.inj h).symm⟩
  | ok properties =>
    cases hm : sortMethods (Keyed.putAll (fun d => d.name) ms []) with
    | error d =>
      rw [hp, hm] at h
      exact ⟨d, (Except.error.inj h).symm⟩
    | ok methods =>
      rw [hp, hm] at h
      cases h

/-! ### Files -/

theorem exists_functionFileDoc (hs : settings.PatternsCompile) (namespaceName raw : String) (fs : List FunctionDecl) :
    ∃ doc, functionFileDoc settings namespaceName raw fs = .ok doc := by
  have hadd : ∀ f ∈ fs, ∀ acc, ∃ acc', addFunction settings acc f = .ok acc' := by
    intro f _ acc
    obtain ⟨doc, hdoc⟩ := exists_functionDoc hs f
    exact ⟨_, by rw [addFunction, hdoc]; rfl⟩
  obtain ⟨functions, hfunctions⟩ := exists_foldlM_eq_ok hadd []
  obtain ⟨parsed, hparsed⟩ := exists_parseComment hs .extract raw
  exact ⟨_, by rw [functionFileDoc, hfunctions, hparsed]; rfl⟩

theorem addClass_eq (acc : Documentation) (s : ScopedClass) :
    addClass settings acc s =
      (classDoc settings s.namespaceName s.decl).map fun doc => Keyed.put s.decl.name (.classDoc doc) acc := by
  rw [addClass]
  cases classDoc settings s.namespaceName s.decl <;> rfl

theorem exists_build_eq_ok (hs : settings.PatternsCompile) {t : SourceTree} (h : ¬ HasLongName t) :
    ∃ docs, build settings t = .ok docs := by
  rw [build]
  split
  · obtain ⟨doc, hdoc⟩ := exists_functionFileDoc hs (classify t).namespaceName
      (selectComment settings.commentSelection (classify t).comments) (classify t).functions
    exact ⟨_, by simp only [hdoc]; rfl⟩
  · refine exists_foldlM_eq_ok (fun s hmem acc => ?_) []
    obtain ⟨doc, hdoc⟩ := (exists_classDoc_eq_ok_iff hs).mpr fun name hname hlong => h ⟨s, hmem, name, hname, hlong⟩
    exact ⟨_, by rw [addClass_eq, hdoc]; rfl⟩

theorem exists_build_eq_error (hs : settings.PatternsCompile) {t : SourceTree} (h : HasLongName t) :
    ∃ d, build settings t = .error (.digits d) := by
  obtain ⟨s, hmem, name, hname, hlong⟩ := h
  have hclasses : (classify t).isFunctionFile = false := by
    rw [Classification.isFunctionFile, List.isEmpty_eq_false_iff]
    exact List.ne_nil_of_mem hmem
  have hkind : ∀ acc s e, addClass settings acc s = .error e → ∃ d, e = .digits d := by
    intro acc s e he
    rw [addClass_eq] at he
    cases hdoc : classDoc settings s.namespaceName s.decl with
    | error e' =>
      rw [hdoc] at he
      obtain rfl := Except.error.inj he
      exact eq_digits_of_classDoc hs hdoc
    | ok doc =>
      rw [hdoc] at he
      cases he
  have hfault : ∀ acc, ∃ e, addClass settings acc s = .error e := by
    intro acc
    rw [addClass_eq]
    cases hdoc : classDoc settings s.namespaceName s.decl with
    | error e => exact ⟨e, rfl⟩
    | ok doc => exact absurd hlong ((exists_classDoc_eq_ok_iff hs).mp ⟨doc, hdoc⟩ name hname)
  obtain ⟨_, ⟨d, rfl⟩, hd⟩ := exists_foldlM_eq_error hkind hmem hfault []
  refine ⟨d, ?_⟩
  rw [build, hclasses]
  exact hd

/-- **What keeps a dump from being documented.** Every list of values is read as a tree. Building its documentation fails exactly when a documented class declares a name with a long run of digits, and then because of the digits. -/
theorem build_fails_iff_hasLongName (hs : settings.PatternsCompile) (path : Option String) (data : List Json) :
    ∃ t, SourceTree.ofJson path (.arr data) = .ok t
      ∧ ((∃ e, build settings t = .error e) ↔ HasLongName t)
      ∧ (HasLongName t → ∃ d, build settings t = .error (.digits d))
      ∧ (¬ HasLongName t → ∃ docs, build settings t = .ok docs) := by
  refine ⟨⟨data.map Statement.ofJson, path⟩, rfl, ⟨?_, ?_⟩, exists_build_eq_error hs, exists_build_eq_ok hs⟩
  · rintro ⟨e, he⟩
    by_contra hshort
    obtain ⟨docs, hdocs⟩ := exists_build_eq_ok hs hshort
    rw [he] at hdocs
    cases hdocs
  · intro hlong
    obtain ⟨d, hd⟩ := exists_build_eq_error hs hlong
    exact ⟨_, hd⟩

def methodNode (name : String) : Json := .obj [("nodeType", .str "Stmt_ClassMethod"), ("name", .str name)]

/-- A node for a class that has a method, with values of the wrong shapes elsewhere. -/
def classNode (name : String) : Json :=
  .obj [("nodeType", .str "Stmt_Class"), ("name", .null), ("flags", .str "?"), ("stmts", .arr [.int 7, methodNode name])]

/-- One digit more in a row than can be read. -/
def longName : String := String.ofList (List.replicate (Number.digitLimit + 1) '7')

theorem hasLongDigits_longName : HasLongDigits longName :=
  ⟨List.replicate (Number.digitLimit + 1) '7', by simp [longName], by simp, by simp⟩

theorem ofJson_methodNode (name : String) : Method.ofJson (methodNode name) = ⟨name, 0, [], none, [], -1⟩ := by
  have htype : typeName ((methodNode name).field "returnType") = none := by
    rw [typeName]
    rfl
  rw [Method.ofJson, htype]
  rfl

theorem classes_classNode (name : String) :
    (classify ⟨[.bool true, classNode name].map Statement.ofJson, none⟩).classes =
      [⟨"", ⟨"", [.other ⟨"", [], -1⟩, .method ⟨name, 0, [], none, [], -1⟩], 0, [], -1⟩⟩] := by
  have htrue : Statement.ofJson (.bool true) = .other ⟨"", [], -1⟩ := by
    rw [Statement.ofJson]
    rfl
  have hclass : Statement.ofJson (classNode name) =
      .classDecl ⟨"", [.other ⟨"", [], -1⟩, .method (Method.ofJson (methodNode name))], 0, [], -1⟩ := by
    rw [Statement.ofJson]
    rfl
  rw [List.map_cons, List.map_cons, List.map_nil, htrue, hclass, ofJson_methodNode]
  rfl

theorem hasLongName_classNode_iff (name : String) :
    HasLongName ⟨[.bool true, classNode name].map Statement.ofJson, none⟩ ↔ HasLongDigits name := by
  rw [HasLongName, classes_classNode]
  simp [Declares, propertyNames, propertyItems, memberItems, methodNames, methodsOf, memberMethods]

theorem build_classNode :
    (∃ t docs, SourceTree.ofJson none (.arr [.bool true, classNode "run2"]) = .ok t ∧ build Settings.default t = .ok docs)
      ∧ ∃ t d, SourceTree.ofJson none (.arr [.bool true, classNode longName]) = .ok t
        ∧ build Settings.default t = .error (.digits d) := by
  constructor
  · obtain ⟨t, ht, -, -, hok⟩ :=
      build_fails_iff_hasLongName patternsCompile_default none [.bool true, classNode "run2"]
    have hshort : ¬ HasLongName t := by
      rw [← Except.ok.inj ht, hasLongName_classNode_iff]
      exact not_hasLongDigits_of_length (by decide)
    obtain ⟨docs, hdocs⟩ := hok hshort
    exact ⟨t, docs, ht, hdocs⟩
  · obtain ⟨t, ht, -, hfails, -⟩ :=
      build_fails_iff_hasLongName patternsCompile_default none [.bool true, classNode longName]
    have hlong : HasLongName t := by
      rw [← Except.ok.inj ht, hasLongName_classNode_iff]
      exact hasLongDigits_longName
    obtain ⟨d, hd⟩ := hfails hlong
    exact ⟨t, d, ht, hd⟩

end ApiDoc.Record
