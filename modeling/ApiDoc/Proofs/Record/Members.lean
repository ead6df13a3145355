import ApiDoc.Proofs.Keyed
import ApiDoc.Proofs.NaturalOrder
import ApiDoc.Proofs.Settings.Patterns
import ApiDoc.Record.Build

/-!
# What the members of a class give

Once the patterns of the settings compile, every declaration has a record, and reading the members of a class never fails: the properties are those of `propertyItems`, the methods those of `methodsOf`, each written under its name in turn (`foldlM_addMember`). The only step of `classDoc` that can fail is the ordering of names (`classDoc_eq`), which succeeds exactly when no declared name has a long run of digits.
-/

namespace ApiDoc.Record

open Syntax DocComment NaturalOrder Std

/-! ### Declarations of a class -/

/-- The items that a member declares, each with its statement. -/
def memberItems : Member → List (Property × PropertyItem)
  | .property p => p.items.map fun item => (p, item)
  | _ => []

/-- The methods that a member declares. -/
def memberMethods : Member → List Method
  | .method m => [m]
  | _ => []

/-- The property items of a class in order, each with its statement. -/
def propertyItems (members : List Member) : List (Property × PropertyItem) := members.flatMap memberItems

/-- The methods of a class in order. -/
def methodsOf (members : List Member) : List Method := members.flatMap memberMethods

def propertyNames (members : List Member) : List String := (propertyItems members).map fun e => e.2.name

def methodNames (members : List Member) : List String := (methodsOf members).map Method.name

/-- Some property item or some method of a class goes by a name. -/
def Declares (members : List Member) (name : String) : Prop := name ∈ propertyNames members ∨ name ∈ methodNames members

/-! ### Records -/

section Records

variable {settings : Settings} (hs : settings.PatternsCompile)
include hs

theorem exists_parseComment (mode : Mode) (raw : String) : ∃ parsed, parseComment settings mode raw = .ok parsed := by
  obtain ⟨⟨is, hi⟩, ⟨ns, hn⟩⟩ := hs
  cases hraw : isDocComment raw.toList with
  | false => exact ⟨none, by simp [parseComment, parse, hraw]; rfl⟩
  | true =>
    cases mode with
    | plain => exact ⟨_, by rw [parseComment, parse_plain hi hraw]; rfl⟩
    | extract => exact ⟨_, by rw [parseComment, parse_extract hi hn hraw]; rfl⟩

theorem exists_propertyDoc (p : Property) (item : PropertyItem) : ∃ doc, propertyDoc settings p item = .ok doc := by
  obtain ⟨parsed, hparsed⟩ := exists_parseComment hs .plain (selectComment settings.commentSelection (itemComments p item))
  exact ⟨_, by rw [propertyDoc, hparsed]; rfl⟩

theorem exists_methodDoc (m : Method) : ∃ doc, methodDoc settings m = .ok doc := by
  obtain ⟨parsed, hparsed⟩ := exists_parseComment hs .extract (selectComment settings.commentSelection m.comments)
  exact ⟨_, by rw [methodDoc, hparsed]; rfl⟩

theorem exists_functionDoc (f : FunctionDecl) : ∃ doc, functionDoc settings f = .ok doc := by
  obtain ⟨parsed, hparsed⟩ := exists_parseComment hs .extract (selectComment settings.commentSelection f.comments)
  exact ⟨_, by rw [functionDoc, hparsed]; rfl⟩

end Records

variable {settings : Settings}

theorem name_of_propertyDoc {p : Property} {item : PropertyItem} {doc : PropertyDoc} (h : propertyDoc settings p item = .ok doc) :
    doc.name = item.name := by
  obtain ⟨parsed, -, hdoc⟩ := bind_eq_ok_iff.mp h
  obtain rfl := Except.ok.inj hdoc
  rfl

theorem name_of_methodDoc {m : Method} {doc : MethodDoc} (h : methodDoc settings m = .ok doc) : doc.name = m.name := by
  obtain ⟨parsed, -, hdoc⟩ := bind_eq_ok_iff.mp h
  obtain rfl := Except.ok.inj hdoc
  rfl

/-! ### Reading the members -/

theorem addItems_eq {p : Property} {items : List PropertyItem} {docs : List PropertyDoc}
    (h : items.mapM (propertyDoc settings p) = .ok docs) (ps : Keyed PropertyDoc) :
    addItems settings p ps items = .ok (Keyed.putAll PropertyDoc.name docs ps) := by
  rw [mapM_eq_ok_iff] at h
  induction h generalizing ps with
  | nil => rfl
  | cons hdoc _ ih =>
    rw [addItems, hdoc]
    exact ih _

theorem addItems_eq_foldlM (p : Property) (ps : Keyed PropertyDoc) (items : List PropertyItem) :
    addItems settings p ps items =
      items.foldlM (fun ps item => (propertyDoc settings p item).map fun d => Keyed.put d.name d ps) ps := by
  induction items generalizing ps with
  | nil => rfl
  | cons item rest ih =>
    rw [addItems, List.foldlM_cons]
    cases propertyDoc settings p item with
    | error e => rfl
    | ok d => exact ih _

/-- **Reading the members of a class** writes its records one after another. -/
theorem foldlM_addMember {members : List Member} {ps : List PropertyDoc} {ms : List MethodDoc}
    (hps : (propertyItems members).mapM (fun e => propertyDoc settings e.1 e.2) = .ok ps)
    (hms : (methodsOf members).mapM (methodDoc settings) = .ok ms) (acc : Members) :
    members.foldlM (addMember settings) acc =
      .ok ⟨Keyed.putAll PropertyDoc.name ps acc.properties, Keyed.putAll (fun d => d.name) ms acc.methods⟩ := by
  induction members generalizing ps ms acc with
  | nil =>
    obtain rfl := Except.ok.inj hps
    obtain rfl := Except.ok.inj hms
    rfl
  | cons member members ih =>
    obtain ⟨as, ps', has, hps', rfl⟩ := mapM_append_eq_ok hps
    obtain ⟨bs, ms', hbs, hms', rfl⟩ := mapM_append_eq_ok hms
    rw [List.foldlM_cons, Keyed.putAll_append, Keyed.putAll_append]
    -- one member adds its own items or its own method
    have hstep : addMember settings acc member =
        .ok ⟨Keyed.putAll PropertyDoc.name as acc.properties, Keyed.putAll (fun d => d.name) bs acc.methods⟩ := by
      cases member with
      | property p =>
        obtain rfl := Except.ok.inj hbs
        rw [memberItems, List.mapM_map] at has
        rw [addMember, addItems_eq has]
        rfl
      | method m =>
        obtain rfl := Except.ok.inj has
        obtain ⟨doc, _, hdoc, hnil, rfl⟩ := List.forall₂_cons_left_iff.mp (mapM_eq_ok_iff.mp hbs)
        obtain rfl := List.forall₂_nil_left_iff.mp hnil
        rw [addMember, hdoc]
        rfl
      | other o =>
        obtain rfl := Except.ok.inj has
        obtain rfl := Except.ok.inj hbs
        rfl
    rw [hstep]
    exact ih hps' hms' _

theorem exists_propertyDocs (hs : settings.PatternsCompile) (members : List Member) :
    ∃ ps, (propertyItems members).mapM (fun e => propertyDoc settings e.1 e.2) = .ok ps :=
  exists_mapM_eq_ok_iff.mpr fun e _ => exists_propertyDoc hs e.1 e.2

theorem exists_methodDocs (hs : settings.PatternsCompile) (members : List Member) :
    ∃ ms, (methodsOf members).mapM (methodDoc settings) = .ok ms :=
  exists_mapM_eq_ok_iff.mpr fun m _ => exists_methodDoc hs m

/-! ### Records under their names -/

theorem last?_of_mapM {α β ε : Type} {f : α → Except ε β} {nameOf : α → String} {nameOf' : β → String}
    (hname : ∀ x y, f x = .ok y → nameOf' y = nameOf x) {xs : List α} {ys : List β} (h : xs.mapM f = .ok ys) (name : String) :
    (Keyed.last? nameOf name xs).map f = (Keyed.last? nameOf' name ys).map .ok := by
  rw [mapM_eq_ok_iff] at h
  induction h with
  | nil => rfl
  | cons hxy _ ih =>
    rw [Keyed.last?_cons, Keyed.last?_cons, hname _ _ hxy, Option.map_or, Option.map_or, ih]
    congr 1
    split
    · simp [hxy]
    · rfl

theorem map_name_of_mapM {α β ε : Type} {f : α → Except ε β} {nameOf : α → String} {nameOf' : β → String}
    (hname : ∀ x y, f x = .ok y → nameOf' y = nameOf x) {xs : List α} {ys : List β} (h : xs.mapM f = .ok ys) :
    ys.map nameOf' = xs.map nameOf := by
  rw [mapM_eq_ok_iff] at h
  induction h with
  | nil => rfl
  | cons hxy _ ih => rw [List.map_cons, List.map_cons, ih, hname _ _ hxy]

/-! ### Order of the members -/

instance : TransCmp MethodKey.compare :=
  inferInstanceAs (TransCmp (compareLex (compareOn MethodKey.isConstructor)
    (compareLex (compareOn MethodKey.isInstance) (Function.onFun Key.compare MethodKey.name))))

instance : LawfulEqCmp MethodKey.compare where
  compare_self := ReflCmp.compare_self
  eq_of_compare {a b} h := by
    simp only [MethodKey.compare, Ordering.then_eq_eq] at h
    obtain ⟨hconstructor, hinstance, hname⟩ := h
    obtain ⟨isConstructor, isInstance, name⟩ := a
    obtain rfl : isConstructor = b.isConstructor := LawfulEqOrd.eq_of_compare hconstructor
    obtain rfl : isInstance = b.isInstance := LawfulEqOrd.eq_of_compare hinstance
    obtain rfl : name = b.name := LawfulEqCmp.eq_of_compare hname
    rfl

/-- A sort key of entries that every name without a long run of digits has, and that tells names apart. -/
structure TellsNames {α κ : Type} (nameOf : α → String) (key : String × α → Except Number.TooManyDigits κ) : Prop where
  exists_iff : ∀ e, nameOf e.2 = e.1 → ((∃ k, key e = .ok k) ↔ ¬ HasLongDigits e.1)
  injective : ∀ e e' k, nameOf e.2 = e.1 → nameOf e'.2 = e'.1 → key e = .ok k → key e' = .ok k → e.1 = e'.1

theorem tellsNames_naturalKey {α : Type} (nameOf : α → String) : TellsNames nameOf fun e => naturalKey e.1 where
  exists_iff _ _ := exists_naturalKey_eq_ok_iff
  injective _ _ _ _ _ h h' := naturalKey_injective h h'

theorem methodKey_eq_ok_iff {name : String} {static : Bool} {key : MethodKey} :
    methodKey name static = .ok key ↔
      ∃ k, naturalKey name = .ok k ∧ key = ⟨name == constructorName, !static, k⟩ := by
  rw [methodKey, bind_eq_ok_iff]
  simp only [pure, Except.pure, Except.ok.injEq, eq_comm]

theorem tellsNames_methodKey : TellsNames (fun d : MethodDoc => d.name) fun e => methodKey e.2.name e.2.isStatic where
  exists_iff e he := by
    rw [← exists_naturalKey_eq_ok_iff, he]
    simp only [methodKey_eq_ok_iff]
    exact ⟨fun ⟨_, k, hk, _⟩ => ⟨k, hk⟩, fun ⟨k, hk⟩ => ⟨_, k, hk, rfl⟩⟩
  injective e e' k he he' h h' := by
    rw [he] at h
    rw [he'] at h'
    obtain ⟨key, hkey, hk⟩ := methodKey_eq_ok_iff.mp h
    obtain ⟨key', hkey', hk'⟩ := methodKey_eq_ok_iff.mp h'
    rw [hk, MethodKey.mk.injEq] at hk'
    rw [hk'.2.2] at hkey
    exact naturalKey_injective hkey hkey'

section Table

variable {α κ : Type} {nameOf : α → String} {key : String × α → Except Number.TooManyDigits κ} {xs xs' : List α}

/-- Records under their names can be put in order exactly when no name has a long run of digits. -/
theorem exists_sortBy_putAll_iff (hkey : TellsNames nameOf key) (order : κ → κ → Ordering) :
    (∃ r, sortBy key order (Keyed.putAll nameOf xs []) = .ok r) ↔ ∀ name ∈ xs.map nameOf, ¬ HasLongDigits name := by
  rw [exists_sortBy_eq_ok_iff]
  constructor
  · intro h name hname
    obtain ⟨d, hd⟩ := Option.isSome_iff_exists.mp (Keyed.last?_isSome_iff.mpr hname)
    exact (hkey.exists_iff (name, d) (Keyed.nameOf_last? hd)).mp (h _ (Keyed.mem_putAll_iff.mpr hd))
  · rintro h ⟨name, d⟩ hmem
    have hlast := Keyed.mem_putAll_iff.mp hmem
    refine (hkey.exists_iff (name, d) (Keyed.nameOf_last? hlast)).mpr (h name ?_)
    exact Keyed.last?_isSome_iff.mp (by rw [hlast]; rfl)

theorem TellsNames.eq_of_mem_putAll (hkey : TellsNames nameOf key) {e e' : String × α} (he : e ∈ Keyed.putAll nameOf xs [])
    (he' : e' ∈ Keyed.putAll nameOf xs []) {k : κ} (hk : key e = .ok k) (hk' : key e' = .ok k) : e = e' := by
  obtain ⟨name, d⟩ := e
  obtain ⟨name', d'⟩ := e'
  rw [Keyed.mem_putAll_iff] at he he'
  obtain rfl : name = name' :=
    hkey.injective (name, d) (name', d') k (Keyed.nameOf_last? he) (Keyed.nameOf_last? he') hk hk'
  rw [Option.some.inj (he.symm.trans he')]

/-- **Only the last record of each name counts**, for the records and for their order. -/
theorem sortBy_putAll_eq {order : κ → κ → Ordering} [TransCmp order] [LawfulEqCmp order] (hkey : TellsNames nameOf key)
    (hshort : ∀ name ∈ xs.map nameOf, ¬ HasLongDigits name)
    (hlast : ∀ name, Keyed.last? nameOf name xs = Keyed.last? nameOf name xs') :
    ∃ r, sortBy key order (Keyed.putAll nameOf xs []) = .ok r ∧ sortBy key order (Keyed.putAll nameOf xs' []) = .ok r := by
  have hnodup : ∀ ys : List α, (Keyed.keys (Keyed.putAll nameOf ys [])).Nodup := fun ys =>
    Keyed.nodup_keys_putAll nameOf ys (by simp [Keyed.keys])
  have hperm : (Keyed.putAll nameOf xs []).Perm (Keyed.putAll nameOf xs' []) := by
    refine Keyed.perm_of_get?_eq (hnodup xs) (hnodup xs') fun name => ?_
    rw [Keyed.get?_putAll, Keyed.get?_putAll, hlast]
  have hok := exists_sortBy_eq_ok_iff.mp ((exists_sortBy_putAll_iff hkey order).mpr hshort)
  exact sortBy_eq_of_perm hperm hok fun _ he _ he' _ hk hk' => hkey.eq_of_mem_putAll he he' hk hk'

theorem pairwise_lt_of_sortBy_putAll {order : κ → κ → Ordering} [TransCmp order] [LawfulEqCmp order]
    (hkey : TellsNames nameOf key) {r : Keyed α} (h : sortBy key order (Keyed.putAll nameOf xs []) = .ok r) :
    r.Pairwise fun e e' => ∃ k k', key e = .ok k ∧ key e' = .ok k' ∧ order k k' = .lt :=
  pairwise_lt_of_sortBy h (List.Nodup.of_map _ (Keyed.nodup_keys_putAll nameOf xs List.nodup_nil))
    fun _ he _ he' _ hk hk' => hkey.eq_of_mem_putAll he he' hk hk'

end Table

/-- An entry of a sorted table of records is the record of the last declaration of its name. -/
theorem exists_last?_of_mem_sortBy {α β κ ε : Type} {f : α → Except ε β} {nameOf : α → String} {nameOf' : β → String}
    (hname : ∀ x y, f x = .ok y → nameOf' y = nameOf x) {xs : List α} {ys : List β} (hys : xs.mapM f = .ok ys)
    {key : String × β → Except Number.TooManyDigits κ} {order : κ → κ → Ordering} {table : Keyed β}
    (hsort : sortBy key order (Keyed.putAll nameOf' ys []) = .ok table) {name : String} {y : β} (hmem : (name, y) ∈ table) :
    ∃ x, Keyed.last? nameOf name xs = some x ∧ f x = .ok y := by
  have hlast := Keyed.mem_putAll_iff.mp ((perm_of_sortBy hsort).mem_iff.mp hmem)
  have heq := last?_of_mapM hname hys name
  rw [hlast] at heq
  exact Option.map_eq_some_iff.mp heq

/-! ### The record of a class -/

theorem classDoc_eq {c : ClassDecl} {ps : List PropertyDoc} {ms : List MethodDoc} {parsed : Option Parsed}
    (hps : (propertyItems c.members).mapM (fun e => propertyDoc settings e.1 e.2) = .ok ps)
    (hms : (methodsOf c.members).mapM (methodDoc settings) = .ok ms)
    (hparsed : parseComment settings .plain (selectComment settings.commentSelection c.comments) = .ok parsed)
    (namespaceName : String) :
    classDoc settings namespaceName c = do
      let properties ← (sortProperties (Keyed.putAll PropertyDoc.name ps [])).mapError .digits
      let methods ← (sortMethods (Keyed.putAll (fun d => d.name) ms [])).mapError .digits
      return {
        name := c.name, namespaceName, rawComment := selectComment settings.commentSelection c.comments
        parsedComment := parsed, properties, methods } := by
  rw [classDoc, foldlM_addMember hps hms, hparsed]
  rfl

theorem exists_memberDocs (hs : settings.PatternsCompile) (c : ClassDecl) :
    ∃ ps ms parsed, (propertyItems c.members).mapM (fun e => propertyDoc settings e.1 e.2) = .ok ps ∧
      (methodsOf c.members).mapM (methodDoc settings) = .ok ms ∧
      parseComment settings .plain (selectComment settings.commentSelection c.comments) = .ok parsed := by
  obtain ⟨ps, hps⟩ := exists_propertyDocs hs c.members
  obtain ⟨ms, hms⟩ := exists_methodDocs hs c.members
  obtain ⟨parsed, hparsed⟩ := exists_parseComment hs .plain (selectComment settings.commentSelection c.comments)
  exact ⟨ps, ms, parsed, hps, hms, hparsed⟩

theorem named_of_classDoc {namespaceName : String} {c : ClassDecl} {doc : ClassDoc}
    (h : classDoc settings namespaceName c = .ok doc) : doc.name = c.name ∧ doc.namespaceName = namespaceName := by
  obtain ⟨members, -, h⟩ := bind_eq_ok_iff.mp h
  obtain ⟨parsed, -, h⟩ := bind_eq_ok_iff.mp h
  obtain ⟨properties, -, h⟩ := bind_eq_ok_iff.mp h
  obtain ⟨methods, -, h⟩ := bind_eq_ok_iff.mp h
  obtain rfl := Except.ok.inj h
  exact ⟨rfl, rfl⟩

theorem classDoc_spec (hs : settings.PatternsCompile) {c : ClassDecl} {namespaceName : String} {doc : ClassDoc}
    (h : classDoc settings namespaceName c = .ok doc) :
    ∃ ps ms, (propertyItems c.members).mapM (fun e => propertyDoc settings e.1 e.2) = .ok ps ∧
      (methodsOf c.members).mapM (methodDoc settings) = .ok ms ∧
      doc.rawComment = selectComment settings.commentSelection c.comments ∧
      parseComment settings .plain doc.rawComment = .ok doc.parsedComment ∧
      sortProperties (Keyed.putAll PropertyDoc.name ps []) = .ok doc.properties ∧
      sortMethods (Keyed.putAll (fun d => d.name) ms []) = .ok doc.methods := by
  obtain ⟨ps, ms, parsed, hps, hms, hparsed⟩ := exists_memberDocs hs c
  rw [classDoc_eq hps hms hparsed] at h
  simp only [bind_eq_ok_iff, mapError_eq_ok_iff] at h
  obtain ⟨properties, hproperties, methods, hmethods, h⟩ := h
  obtain rfl := Except.ok.inj h
  exact ⟨ps, ms, hps, hms, rfl, hparsed, hproperties, hmethods⟩

end ApiDoc.Record
