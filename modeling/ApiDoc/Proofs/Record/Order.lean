import ApiDoc.Proofs.Record.LastDeclaration
import ApiDoc.Proofs.Record.Totality

/-!
# The members of a class record

Which members the record of a class has, and in which order.

* `IsTable` says what a table of records is: every name of a declaration once, with the record of its last declaration.
* `filter_append_filter` parts a list at a test that no element fails in front of one that passes it. With it the methods come apart into static ones, other ones and the constructor (`exists_groups`).
* `members_of_classDoc` puts the two together.
-/

namespace ApiDoc.Record

open Syntax NaturalOrder Std

variable {settings : Settings}

/-! ### Tables -/

/-- A table of records: every name of a declaration once, with the record of its last declaration, which has that name. -/
structure IsTable {δ α : Type} (nameOf : δ → String) (recordName : α → String) (IsRecord : δ → α → Prop) (declarations : List δ)
    (table : Keyed α) : Prop where
  nodup : (Keyed.keys table).Nodup
  mem_keys_iff : ∀ name, name ∈ Keyed.keys table ↔ name ∈ declarations.map nameOf
  name_eq : ∀ e ∈ table, recordName e.2 = e.1
  exists_last : ∀ e ∈ table, ∃ d, Keyed.last? nameOf e.1 declarations = some d ∧ IsRecord d e.2

theorem isTable_of_sortBy {δ α κ : Type} {nameOf : δ → String} {recordName : α → String} {docOf : δ → Except BuildError α}
    {IsRecord : δ → α → Prop} (hname : ∀ d y, docOf d = .ok y → recordName y = nameOf d)
    (hrecord : ∀ d y, docOf d = .ok y → IsRecord d y) {declarations : List δ} {records : List α}
    (hrecords : declarations.mapM docOf = .ok records) {key : String × α → Except Number.TooManyDigits κ}
    {order : κ → κ → Ordering} {table : Keyed α} (hsort : sortBy key order (Keyed.putAll recordName records []) = .ok table) :
    IsTable nameOf recordName IsRecord declarations table := by
  have hperm := perm_of_sortBy hsort
  have hlast : ∀ e ∈ table, ∃ d, Keyed.last? nameOf e.1 declarations = some d ∧ docOf d = .ok e.2 := fun e he =>
    exists_last?_of_mem_sortBy hname hrecords hsort he
  refine ⟨?_, fun name => ?_, fun e he => ?_, fun e he => ?_⟩
  · exact (hperm.map Prod.fst).nodup_iff.mpr (Keyed.nodup_keys_putAll recordName records List.nodup_nil)
  · constructor
    · intro hmem
      obtain ⟨e, he, rfl⟩ := List.mem_map.mp hmem
      obtain ⟨d, hd, -⟩ := hlast e he
      exact Keyed.last?_isSome_iff.mp (by rw [hd, Option.isSome_some])
    · intro hmem
      rw [← map_name_of_mapM hname hrecords, ← Keyed.last?_isSome_iff] at hmem
      obtain ⟨y, hy⟩ := Option.isSome_iff_exists.mp hmem
      exact List.mem_map.mpr ⟨(name, y), hperm.mem_iff.mpr (Keyed.mem_putAll_iff.mpr hy), rfl⟩
  · obtain ⟨d, hd, hdoc⟩ := hlast e he
    rw [hname d e.2 hdoc, Keyed.nameOf_last? hd]
  · obtain ⟨d, hd, hdoc⟩ := hlast e he
    exact ⟨d, hd, hrecord d e.2 hdoc⟩

/-- The record of a property item, with the type and the flags of its own statement. -/
structure IsPropertyRecord (settings : Settings) (e : Property × PropertyItem) (d : PropertyDoc) : Prop where
  doc_eq : propertyDoc settings e.1 e.2 = .ok d
  type_eq : d.type = e.1.type.getD ""
  visibility_eq : d.visibility = visibilityOf e.1.flags
  isStatic_eq : d.isStatic = isStatic e.1.flags

/-- The record of a method, with its own type and flags. -/
structure IsMethodRecord (settings : Settings) (m : Method) (d : MethodDoc) : Prop where
  doc_eq : methodDoc settings m = .ok d
  type_eq : d.type = m.returnType.getD ""
  visibility_eq : d.visibility = visibilityOf m.flags
  isStatic_eq : d.isStatic = isStatic m.flags

theorem isPropertyRecord_of_propertyDoc {e : Property × PropertyItem} {d : PropertyDoc}
    (h : propertyDoc settings e.1 e.2 = .ok d) : IsPropertyRecord settings e d := by
  obtain ⟨parsed, -, hdoc⟩ := bind_eq_ok_iff.mp h
  obtain rfl := Except.ok.inj hdoc
  exact ⟨h, rfl, rfl, rfl⟩

theorem isMethodRecord_of_methodDoc {m : Method} {d : MethodDoc} (h : methodDoc settings m = .ok d) :
    IsMethodRecord settings m d := by
  obtain ⟨parsed, -, hdoc⟩ := bind_eq_ok_iff.mp h
  obtain rfl := Except.ok.inj hdoc
  exact ⟨h, rfl, rfl, rfl⟩

/-! ### Order -/

/-- One method stands before another: it is not the constructor, and the other is, or only the first is static, or its name comes first in the same group. -/
def MethodPrecedes (e e' : String × MethodDoc) : Prop :=
  e.1 ≠ constructorName ∧
    (e'.1 = constructorName ∨ (e.2.isStatic = true ∧ e'.2.isStatic = false) ∨
      (e.2.isStatic = e'.2.isStatic ∧ Precedes e.1 e'.1))

theorem compareBool_eq_lt : ∀ a b : Bool, compare a b = .lt ↔ a = false ∧ b = true := by decide

theorem compareBool_eq_eq : ∀ a b : Bool, compare a b = .eq ↔ a = b := by decide

theorem methodPrecedes_of_compare {e e' : String × MethodDoc} (hname : e.2.name = e.1) (hname' : e'.2.name = e'.1)
    (hne : e.1 ≠ e'.1) {k k' : MethodKey} (hk : methodKey e.2.name e.2.isStatic = .ok k)
    (hk' : methodKey e'.2.name e'.2.isStatic = .ok k') (h : MethodKey.compare k k' = .lt) : MethodPrecedes e e' := by
  rw [hname] at hk
  rw [hname'] at hk'
  obtain ⟨key, hkey, rfl⟩ := methodKey_eq_ok_iff.mp hk
  obtain ⟨key', hkey', rfl⟩ := methodKey_eq_ok_iff.mp hk'
  simp only [MethodKey.compare, Ordering.then_eq_lt, compareBool_eq_lt, compareBool_eq_eq] at h
  rcases h with ⟨hother, hconstructor⟩ | ⟨hsame, h⟩
  · exact ⟨by simpa using hother, .inl (by simpa using hconstructor)⟩
  · have hother : e.1 ≠ constructorName := by
      intro hconstructor
      -- there is only one constructor
      have hconstructor' : e'.1 = constructorName := by simpa [hconstructor] using hsame
      exact hne (hconstructor.trans hconstructor'.symm)
    refine ⟨hother, .inr ?_⟩
    rcases h with hstatic | ⟨hstatic, h⟩
    · exact .inl (by simpa using hstatic)
    · exact .inr ⟨by simpa using hstatic, key, key', hkey, hkey', h⟩

theorem filter_append_filter {α : Type} {p : α → Bool} {xs : List α} (h : xs.Pairwise fun x y => p y = true → p x = true) :
    xs.filter p ++ xs.filter (fun x => !p x) = xs := by
  induction xs with
  | nil => rfl
  | cons x xs ih =>
    obtain ⟨hx, hxs⟩ := List.pairwise_cons.mp h
    cases hpx : p x with
    | true => simp [hpx, ih hxs]
    | false =>
      have hnone : ∀ y ∈ xs, p y = false := by
        intro y hy
        rw [← Bool.not_eq_true]
        intro hpy
        rw [hx y hy hpy] at hpx
        cases hpx
      have hnil : xs.filter p = [] := List.filter_eq_nil_iff.mpr fun y hy => by simp [hnone y hy]
      have hall : xs.filter (fun y => !p y) = xs := List.filter_eq_self.mpr fun y hy => by simp [hnone y hy]
      simp [hpx, hnil, hall]

theorem pairwise_precedes_of_group {group : Keyed MethodDoc} (h : group.Pairwise MethodPrecedes)
    (hother : ∀ e ∈ group, e.1 ≠ constructorName) {static : Bool} (hstatic : ∀ e ∈ group, e.2.isStatic = static) :
    (Keyed.keys group).Pairwise Precedes := by
  rw [Keyed.keys, List.pairwise_map]
  refine h.imp_of_mem fun {e e'} he he' hbefore => ?_
  rcases hbefore.2.resolve_left (hother e' he') with ⟨htrue, hfalse⟩ | ⟨-, hprecedes⟩
  · rw [hstatic e he, ← hstatic e' he', hfalse] at htrue
    cases htrue
  · exact hprecedes

/-- Methods in order: static ones and then the others, each group by names, and at the end the constructor if there is one. -/
def InGroups (methods : Keyed MethodDoc) : Prop :=
  ∃ (statics instances : Keyed MethodDoc) (constructor : Option MethodDoc),
    methods = statics ++ instances ++ (constructor.map fun d => (constructorName, d)).toList ∧
      (∀ e ∈ statics, e.1 ≠ constructorName ∧ e.2.isStatic = true) ∧
      (∀ e ∈ instances, e.1 ≠ constructorName ∧ e.2.isStatic = false) ∧
      (Keyed.keys statics).Pairwise Precedes ∧ (Keyed.keys instances).Pairwise Precedes

theorem inGroups_of_pairwise {methods : Keyed MethodDoc} (hnodup : (Keyed.keys methods).Nodup)
    (h : methods.Pairwise MethodPrecedes) : InGroups methods := by
  -- first the constructor comes off at the end, then the static methods at the start
  let others := methods.filter fun e => decide (e.1 ≠ constructorName)
  have hconstructor : others ++ ((Keyed.get? constructorName methods).map fun d => (constructorName, d)).toList = methods := by
    have hparts := filter_append_filter (h.imp fun hbefore _ => decide_eq_true hbefore.1)
    rw [← Keyed.filter_eq_get? hnodup]
    simpa only [others, ne_eq, decide_not, Bool.not_not] using hparts
  have hothers : ∀ e ∈ others, e.1 ≠ constructorName := fun e he => of_decide_eq_true (List.mem_filter.mp he).2
  have hpairwise : others.Pairwise MethodPrecedes := h.filter _
  have hstatics : others.filter (fun e => e.2.isStatic) ++ others.filter (fun e => !e.2.isStatic) = others := by
    refine filter_append_filter (hpairwise.imp_of_mem fun {e e'} _ he' hbefore hstatic => ?_)
    rcases hbefore.2.resolve_left (hothers e' he') with ⟨he, -⟩ | ⟨hsame, -⟩
    · exact he
    · exact hsame.trans hstatic
  have hstatic : ∀ e ∈ others.filter (fun e => e.2.isStatic), e.1 ≠ constructorName ∧ e.2.isStatic = true := fun e he =>
    ⟨hothers e (List.mem_filter.mp he).1, (List.mem_filter.mp he).2⟩
  have hinstance : ∀ e ∈ others.filter (fun e => !e.2.isStatic), e.1 ≠ constructorName ∧ e.2.isStatic = false := fun e he =>
    ⟨hothers e (List.mem_filter.mp he).1, by simpa using (List.mem_filter.mp he).2⟩
  refine ⟨_, _, Keyed.get? constructorName methods, ?_, hstatic, hinstance, ?_, ?_⟩
  · rw [hstatics, hconstructor]
  · exact pairwise_precedes_of_group (hpairwise.filter _) (fun e he => (hstatic e he).1) fun e he => (hstatic e he).2
  · exact pairwise_precedes_of_group (hpairwise.filter _) (fun e he => (hinstance e he).1) fun e he => (hinstance e he).2

/-! ### The members of a class -/

/-- **Member sets and order.** A class whose declared names have no long runs of digits has a record. Its properties and its methods are tables: every declared name once, with the record of the last declaration, which has the type and the flags of its own statement. The properties strictly increase in natural order. Of the methods the constructor stands last, static ones stand in front of the others, and in each group the names strictly increase. -/
theorem members_of_classDoc (hs : settings.PatternsCompile) {c : ClassDecl}
    (hshort : ∀ name, Declares c.members name → ¬ HasLongDigits name) (namespaceName : String) :
    ∃ doc, classDoc settings namespaceName c = .ok doc ∧
      IsTable (fun e => e.2.name) PropertyDoc.name (IsPropertyRecord settings) (propertyItems c.members) doc.properties ∧
      IsTable Method.name (fun d => d.name) (IsMethodRecord settings) (methodsOf c.members) doc.methods ∧
      (Keyed.keys doc.properties).Pairwise Precedes ∧ InGroups doc.methods := by
  obtain ⟨doc, hdoc⟩ := (exists_classDoc_eq_ok_iff hs).mpr hshort
  obtain ⟨ps, ms, hps, hms, -, -, hproperties, hmethods⟩ := classDoc_spec hs hdoc
  have hpropertyTable := isTable_of_sortBy (fun _ _ => name_of_propertyDoc) (fun _ _ => isPropertyRecord_of_propertyDoc)
    hps hproperties
  have hmethodTable := isTable_of_sortBy (fun _ _ => name_of_methodDoc) (fun _ _ => isMethodRecord_of_methodDoc) hms hmethods
  refine ⟨doc, hdoc, hpropertyTable, hmethodTable, ?_, inGroups_of_pairwise hmethodTable.nodup ?_⟩
  · rw [Keyed.keys, List.pairwise_map]
    exact pairwise_lt_of_sortBy_putAll (tellsNames_naturalKey PropertyDoc.name) hproperties
  · have hne : doc.methods.Pairwise fun e e' => e.1 ≠ e'.1 := List.pairwise_map.mp hmethodTable.nodup
    refine ((pairwise_lt_of_sortBy_putAll tellsNames_methodKey hmethods).and hne).imp_of_mem fun {e e'} he he' h => ?_
    obtain ⟨⟨k, k', hk, hk', hcompare⟩, hne⟩ := h
    exact methodPrecedes_of_compare (hmethodTable.name_eq e he) (hmethodTable.name_eq e' he') hne hk hk' hcompare

/-- Members with a static constructor, and a static method that is declared again without being static. -/
def rankedMembers : List Member :=
  [.method (plainMethod "__construct" 9), .method (plainMethod "run" 9), .property (publicProperty [bareItem "a10", bareItem "a2"] 2),
    .method (plainMethod "make" 9), .method (plainMethod "run" 1)]

theorem members_rankedMembers :
    ∃ doc, classDoc Settings.default "App" ⟨"Ranked", rankedMembers, 0, [], 1⟩ = .ok doc ∧
      (Keyed.keys doc.properties).Pairwise Precedes ∧ InGroups doc.methods ∧
      (∀ name, name ∈ Keyed.keys doc.methods ↔ name ∈ ["__construct", "run", "make"]) ∧
      ∀ d, ("run", d) ∈ doc.methods → d.isStatic = false := by
  have hshort : ∀ name, Declares rankedMembers name → ¬ HasLongDigits name := by
    intro name hname
    refine not_hasLongDigits_of_length ?_
    have hnames : name ∈ ["a10", "a2"] ∨ name ∈ ["__construct", "run", "make", "run"] := hname
    simp only [List.mem_cons, List.not_mem_nil, or_false] at hnames
    rcases hnames with (rfl | rfl) | (rfl | rfl | rfl | rfl) <;> decide
  obtain ⟨doc, hdoc, -, hmethods, hproperties, hgroups⟩ := @members_of_classDoc Settings.default patternsCompile_default
    ⟨"Ranked", rankedMembers, 0, [], 1⟩ hshort "App"
  refine ⟨doc, hdoc, hproperties, hgroups, fun name => ?_, fun d hd => ?_⟩
  · have hnames : name ∈ Keyed.keys doc.methods ↔ name ∈ ["__construct", "run", "make", "run"] := hmethods.mem_keys_iff name
    rw [hnames]
    simp only [List.mem_cons, List.not_mem_nil, or_false]
    tauto
  · obtain ⟨m, hlast, hrecord⟩ := hmethods.exists_last ("run", d) hd
    have hlast' : Keyed.last? Method.name "run" (methodsOf rankedMembers) = some (plainMethod "run" 1) := by decide +kernel
    rw [hrecord.isStatic_eq, Option.some.inj (hlast.symm.trans hlast')]
    decide

end ApiDoc.Record
