import ApiDoc.Proofs.Record.Documents

/-!
# The comments of records

Every record of a documentation goes back to the declaration that won, the last one of its name, and its comment is that declaration's: the text is the comment that the settings choose, and it is parsed exactly when it is a doc comment, under the same settings (`Commented`). Methods, functions and files give up their tags; classes and properties do not, so their comments hold none (`Untagged`).
-/

namespace ApiDoc.Record

open Syntax DocComment NaturalOrder

variable {settings : Settings}

/-- The comment of a record, in its two forms, is the one that counts among the comments of a declaration. -/
structure Commented (settings : Settings) (mode : Mode) (comments : List Comment) (raw : String) (parsed : Option Parsed) :
    Prop where
  chosen : Chosen settings.commentSelection comments raw
  none_iff : parsed = none ↔ isDocComment raw.toList = false
  parsed_eq : isDocComment raw.toList = true →
    DocComment.parse settings.ignoredLinePatterns settings.droppedNotePatterns mode raw = .ok parsed

/-- A parsed comment holds no tags. -/
def Untagged (parsed : Option Parsed) : Prop := ∀ p ∈ parsed, p.params = [] ∧ p.returns = none ∧ p.todo = []

/-- The comments of an item: its own, and those of its statement only if it has none. -/
def commentsOfItem (p : Property) (item : PropertyItem) : List Comment :=
  match item.comments with
  | [] => p.comments
  | c :: rest => c :: rest

/-- The comments in the record of a class are those of the class and of the last property item and method of each name. -/
structure ClassCommented (settings : Settings) (c : ClassDecl) (doc : ClassDoc) : Prop where
  own : Commented settings .plain c.comments doc.rawComment doc.parsedComment
  properties : ∀ name p, (name, p) ∈ doc.properties →
    ∃ e, Keyed.last? (fun e => e.2.name) name (propertyItems c.members) = some e
      ∧ Commented settings .plain (commentsOfItem e.1 e.2) p.rawComment p.parsedComment
  methods : ∀ name m, (name, m) ∈ doc.methods →
    ∃ method, Keyed.last? Method.name name (methodsOf c.members) = some method
      ∧ Commented settings .extract method.comments m.rawComment m.parsedComment

/-- The comments in the record of a file are those of the namespace it starts with and of the last function of each name. -/
structure FileCommented (settings : Settings) (t : SourceTree) (file : FunctionFileDoc) : Prop where
  own : Commented settings .extract (fileComments t) file.rawComment file.parsedComment
  functions : ∀ name f, (name, f) ∈ file.functions →
    ∃ function, Keyed.last? FunctionDecl.name name (scannedFunctions t) = some function
      ∧ Commented settings .extract function.comments f.rawComment f.parsedComment

/-! ### Parsing -/

theorem parseComment_eq_ok_iff {mode : Mode} {raw : String} {parsed : Option Parsed} :
    parseComment settings mode raw = .ok parsed ↔
      DocComment.parse settings.ignoredLinePatterns settings.droppedNotePatterns mode raw = .ok parsed := by
  rw [parseComment, mapError_eq_ok_iff]

theorem commented_of_parseComment {mode : Mode} {comments : List Comment} {raw : String} {parsed : Option Parsed}
    (hraw : raw = selectComment settings.commentSelection comments) (hparsed : parseComment settings mode raw = .ok parsed) :
    Commented settings mode comments raw parsed := by
  rw [parseComment_eq_ok_iff] at hparsed
  refine ⟨chosen_iff.mpr hraw, ?_, fun _ => hparsed⟩
  cases hdoc : isDocComment raw.toList with
  | false =>
    rw [parse_of_not_isDocComment hdoc] at hparsed
    simp [(Except.ok.inj hparsed).symm]
  | true =>
    obtain ⟨_, _, -, -, rfl⟩ := exists_parseLines hdoc hparsed
    simp

theorem Commented.untagged {comments : List Comment} {raw : String} {parsed : Option Parsed}
    (h : Commented settings .plain comments raw parsed) : Untagged parsed := by
  intro p hp
  have hdoc : isDocComment raw.toList = true := by
    by_contra hdoc
    rw [h.none_iff.mpr (by simpa using hdoc)] at hp
    cases hp
  obtain ⟨_, _, -, -, hparsed⟩ := exists_parseLines hdoc (h.parsed_eq hdoc)
  rw [hparsed] at hp
  obtain rfl := Option.some.inj hp
  exact ⟨rfl, rfl, rfl⟩

/-! ### Records of declarations -/

theorem itemComments_eq (p : Property) (item : PropertyItem) : itemComments p item = commentsOfItem p item := by
  rw [itemComments, commentsOfItem]
  cases item.comments <;> rfl

theorem commented_of_propertyDoc {p : Property} {item : PropertyItem} {doc : PropertyDoc}
    (h : propertyDoc settings p item = .ok doc) :
    Commented settings .plain (commentsOfItem p item) doc.rawComment doc.parsedComment := by
  obtain ⟨parsed, hparsed, h⟩ := bind_eq_ok_iff.mp h
  obtain rfl := Except.ok.inj h
  exact commented_of_parseComment (by rw [itemComments_eq]) hparsed

theorem commented_of_methodDoc {m : Method} {doc : MethodDoc} (h : methodDoc settings m = .ok doc) :
    Commented settings .extract m.comments doc.rawComment doc.parsedComment := by
  obtain ⟨parsed, hparsed, h⟩ := bind_eq_ok_iff.mp h
  obtain rfl := Except.ok.inj h
  exact commented_of_parseComment rfl hparsed

theorem commented_of_functionDoc {f : FunctionDecl} {doc : FunctionDoc} (h : functionDoc settings f = .ok doc) :
    Commented settings .extract f.comments doc.rawComment doc.parsedComment := by
  obtain ⟨parsed, hparsed, h⟩ := bind_eq_ok_iff.mp h
  obtain rfl := Except.ok.inj h
  exact commented_of_parseComment rfl hparsed

theorem classCommented_of_classDoc (hs : settings.PatternsCompile) {namespaceName : String} {c : ClassDecl} {doc : ClassDoc}
    (h : classDoc settings namespaceName c = .ok doc) : ClassCommented settings c doc := by
  obtain ⟨ps, ms, hps, hms, hraw, hparsed, hproperties, hmethods⟩ := classDoc_spec hs h
  refine ⟨commented_of_parseComment hraw hparsed, fun name p hp => ?_, fun name m hm => ?_⟩
  · obtain ⟨e, hlast, he⟩ := exists_last?_of_mem_sortBy (fun _ _ => name_of_propertyDoc) hps hproperties hp
    exact ⟨e, hlast, commented_of_propertyDoc he⟩
  · obtain ⟨method, hlast, hmethod⟩ := exists_last?_of_mem_sortBy (fun _ _ => name_of_methodDoc) hms hmethods hm
    exact ⟨method, hlast, commented_of_methodDoc hmethod⟩

theorem fileCommented_of_functionFileDoc {t : SourceTree} {namespaceName : String} {file : FunctionFileDoc}
    (h : functionFileDoc settings namespaceName (selectComment settings.commentSelection (fileComments t))
      (scannedFunctions t) = .ok file) : FileCommented settings t file := by
  obtain ⟨-, hraw, hparsed, htable⟩ := functionFileDoc_spec h
  refine ⟨commented_of_parseComment hraw (hraw ▸ hparsed), fun name f hf => ?_⟩
  obtain ⟨function, hlast, hfunction⟩ := htable.mem_iff.mp hf
  exact ⟨function, hlast, commented_of_functionDoc hfunction⟩

/-! ### Records of a file -/

/-- **Comments stay consistent.** Every record of a documentation has the comment of the declaration that won, and classes and properties have no tags. -/
theorem commented_of_build (hs : settings.PatternsCompile) {t : SourceTree} {docs : Documentation}
    (h : build settings t = .ok docs) :
    (∀ name doc, (name, .classDoc doc) ∈ docs →
        ∃ s, Keyed.last? (fun s => s.decl.name) name (scannedClasses t) = some s ∧ ClassCommented settings s.decl doc)
      ∧ (∀ name file, (name, .functionFile file) ∈ docs → FileCommented settings t file)
      ∧ ∀ name doc, (name, .classDoc doc) ∈ docs →
          Untagged doc.parsedComment ∧ ∀ name p, (name, p) ∈ doc.properties → Untagged p.parsedComment := by
  have hclasses : ∀ name doc, (name, .classDoc doc) ∈ docs →
      ∃ s, Keyed.last? (fun s => s.decl.name) name (scannedClasses t) = some s ∧ ClassCommented settings s.decl doc := by
    intro name doc hmem
    by_cases hclass : HoldsClass t
    · obtain ⟨s, doc', hlast, hdoc, heq, -⟩ := exists_class_of_mem hclass h hmem
      obtain rfl := Declaration.classDoc.inj heq
      exact ⟨s, hlast, classCommented_of_classDoc hs hdoc⟩
    · obtain ⟨file, -, rfl⟩ := exists_functionFile hclass h
      simp at hmem
  refine ⟨hclasses, fun name file hmem => ?_, fun name doc hmem => ?_⟩
  · by_cases hclass : HoldsClass t
    · obtain ⟨_, _, -, -, heq, -⟩ := exists_class_of_mem hclass h hmem
      cases heq
    · obtain ⟨file', hfile, rfl⟩ := exists_functionFile hclass h
      obtain ⟨-, rfl⟩ : name = "NOCLASS" ∧ file = file' := by simpa using hmem
      exact fileCommented_of_functionFileDoc hfile
  · obtain ⟨s, -, hdoc⟩ := hclasses name doc hmem
    refine ⟨hdoc.own.untagged, fun name p hp => ?_⟩
    obtain ⟨_, -, hproperty⟩ := hdoc.properties name p hp
    exact hproperty.untagged

/-- A class with a comment, a property whose item has none of its own, and a method with two comments. -/
def counter : ClassDecl :=
  { name := "Counter"
    members := [
      .property ⟨[⟨"count", none, []⟩], 1, none, [⟨"/**\n * How many.\n * @todo Reset.\n */", 3, true⟩], 4⟩,
      .method ⟨"add", 1, [], none, [⟨"/**\n * Adds.\n */", 5, true⟩, ⟨"// later", 6, false⟩], 7⟩]
    flags := 0
    comments := [⟨"/**\n * Counts.\n */", 1, true⟩]
    line := 2 }

def counterFile : SourceTree := ⟨[.block "App" [.classDecl counter] [] 1], none⟩

def counterDoc : ClassDoc :=
  { name := "Counter"
    namespaceName := "App"
    rawComment := "/**\n * Counts.\n */"
    parsedComment := some ⟨"Counts.", "", none, [], []⟩
    properties := [("count", ⟨"count", "", "", .everyone, false, "/**\n * How many.\n * @todo Reset.\n */",
      some ⟨"How many.", "", none, [], []⟩⟩)]
    methods := [("add", ⟨⟨"add", "", [], "// later", none⟩, .everyone, false, false, false⟩)] }

theorem commented_counterFile :
    Settings.default.PatternsCompile ∧ build Settings.default counterFile = .ok [("Counter", .classDoc counterDoc)]
      ∧ ClassCommented Settings.default counter counterDoc ∧ Untagged counterDoc.parsedComment := by
  have hbuild : build Settings.default counterFile = .ok [("Counter", .classDoc counterDoc)] := by decide +kernel
  obtain ⟨hclasses, -, htags⟩ := commented_of_build patternsCompile_default hbuild
  obtain ⟨s, hlast, hs⟩ := hclasses "Counter" counterDoc (by simp)
  obtain rfl : (⟨"App", counter⟩ : ScopedClass) = s := Option.some.inj hlast
  exact ⟨patternsCompile_default, hbuild, hs, (htags "Counter" counterDoc (by simp)).1⟩

end ApiDoc.Record
