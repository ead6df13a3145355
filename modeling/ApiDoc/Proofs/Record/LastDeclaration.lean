import Mathlib.Logic.Relation
import ApiDoc.Proofs.Record.Members

/-!
# The last declaration of each name

The record of a class depends only on which declaration of each name comes last. Two lists of members are alike (`SameLast`) when for every name the last property item and the last method of that name have the same records, wherever they stand; the classes then have equal records, with their members in the same order.

Lists of members are alike after each of these steps (`Rearranged`), in either direction:

* members that share no name of a property and no name of a method change places;
* a member that declares nothing goes;
* a property statement is split in two;
* a method or a property item goes that is declared again behind it.
-/

namespace ApiDoc.Record

open Syntax NaturalOrder

variable {settings : Settings}

/-- The record of the last property item of a name. -/
def lastPropertyDoc? (settings : Settings) (name : String) (members : List Member) : Option (Except BuildError PropertyDoc) :=
  (Keyed.last? (fun e => e.2.name) name (propertyItems members)).map fun e => propertyDoc settings e.1 e.2

/-- The record of the last method of a name. -/
def lastMethodDoc? (settings : Settings) (name : String) (members : List Member) : Option (Except BuildError MethodDoc) :=
  (Keyed.last? Method.name name (methodsOf members)).map (methodDoc settings)

/-- The last declarations of every name have the same records. -/
structure SameLast (settings : Settings) (members members' : List Member) : Prop where
  property : ∀ name, lastPropertyDoc? settings name members = lastPropertyDoc? settings name members'
  method : ∀ name, lastMethodDoc? settings name members = lastMethodDoc? settings name members'

/-- A step that keeps the last declaration of every name. -/
inductive Rearranged : List Member → List Member → Prop
  /-- Two members in a row that share no property name and no method name change places. -/
  | swap (before after : List Member) (a b : Member) (hp : List.Disjoint (propertyNames [a]) (propertyNames [b]))
      (hm : List.Disjoint (methodNames [a]) (methodNames [b])) :
      Rearranged (before ++ [a, b] ++ after) (before ++ [b, a] ++ after)
  /-- A member that declares nothing goes. -/
  | idle (before after : List Member) (a : Member) (hp : propertyNames [a] = []) (hm : methodNames [a] = []) :
      Rearranged (before ++ [a] ++ after) (before ++ [] ++ after)
  /-- A property statement is split in two with the same flags, type and comments. -/
  | split (before after : List Member) (p : Property) (front back : List PropertyItem) (line line' : Int) :
      Rearranged (before ++ [.property { p with items := front ++ back }] ++ after)
        (before ++ [.property { p with items := front, line := line }, .property { p with items := back, line := line' }] ++ after)
  /-- A method goes that is declared again behind. -/
  | overriddenMethod (before after : List Member) (m : Method) (h : m.name ∈ methodNames after) :
      Rearranged (before ++ [.method m] ++ after) (before ++ [] ++ after)
  /-- A property item goes that is declared again behind, in its own statement or in another. -/
  | overriddenItem (before after : List Member) (p : Property) (front back : List PropertyItem) (item : PropertyItem)
      (h : item.name ∈ back.map PropertyItem.name ∨ item.name ∈ propertyNames after) :
      Rearranged (before ++ [.property { p with items := front ++ item :: back }] ++ after)
        (before ++ [.property { p with items := front ++ back }] ++ after)

/-! ### Last records of a list in parts -/

theorem lastPropertyDoc?_append (name : String) (xs ys : List Member) :
    lastPropertyDoc? settings name (xs ++ ys) = (lastPropertyDoc? settings name ys).or (lastPropertyDoc? settings name xs) := by
  rw [lastPropertyDoc?, propertyItems, List.flatMap_append, Keyed.last?_append, Option.map_or]
  rfl

theorem lastMethodDoc?_append (name : String) (xs ys : List Member) :
    lastMethodDoc? settings name (xs ++ ys) = (lastMethodDoc? settings name ys).or (lastMethodDoc? settings name xs) := by
  rw [lastMethodDoc?, methodsOf, List.flatMap_append, Keyed.last?_append, Option.map_or]
  rfl

theorem lastPropertyDoc?_pair (name : String) (a b : Member) :
    lastPropertyDoc? settings name [a, b] = (lastPropertyDoc? settings name [b]).or (lastPropertyDoc? settings name [a]) :=
  lastPropertyDoc?_append name [a] [b]

theorem lastMethodDoc?_pair (name : String) (a b : Member) :
    lastMethodDoc? settings name [a, b] = (lastMethodDoc? settings name [b]).or (lastMethodDoc? settings name [a]) :=
  lastMethodDoc?_append name [a] [b]

theorem lastPropertyDoc?_isSome_iff {name : String} {members : List Member} :
    (lastPropertyDoc? settings name members).isSome ↔ name ∈ propertyNames members := by
  rw [lastPropertyDoc?, Option.isSome_map, Keyed.last?_isSome_iff]
  rfl

theorem lastMethodDoc?_isSome_iff {name : String} {members : List Member} :
    (lastMethodDoc? settings name members).isSome ↔ name ∈ methodNames members := by
  rw [lastMethodDoc?, Option.isSome_map, Keyed.last?_isSome_iff]
  rfl

theorem lastPropertyDoc?_property (name : String) (p : Property) :
    lastPropertyDoc? settings name [.property p] =
      (Keyed.last? PropertyItem.name name p.items).map (propertyDoc settings p) := by
  simp only [lastPropertyDoc?, propertyItems, memberItems, List.flatMap_cons, List.flatMap_nil, List.append_nil,
    Keyed.last?_map, Option.map_map]
  rfl

theorem or_comm_of_disjoint {α : Type} {a b : Option α} (h : ¬ (a.isSome ∧ b.isSome)) : a.or b = b.or a := by
  cases a <;> cases b <;> simp_all

theorem or_eq_of_isSome {α : Type} {a : Option α} (h : a.isSome) (b b' : Option α) : a.or b = a.or b' := by
  cases a <;> simp_all

/-- A part may be replaced by another if their last records differ only where a name is declared again behind. -/
theorem SameLast.middle {before after part part' : List Member}
    (hp : ∀ name, name ∈ propertyNames after ∨ lastPropertyDoc? settings name part = lastPropertyDoc? settings name part')
    (hm : ∀ name, name ∈ methodNames after ∨ lastMethodDoc? settings name part = lastMethodDoc? settings name part') :
    SameLast settings (before ++ part ++ after) (before ++ part' ++ after) where
  property name := by
    simp only [lastPropertyDoc?_append]
    rcases hp name with hafter | hpart
    · exact or_eq_of_isSome (lastPropertyDoc?_isSome_iff.mpr hafter) _ _
    · rw [hpart]
  method name := by
    simp only [lastMethodDoc?_append]
    rcases hm name with hafter | hpart
    · exact or_eq_of_isSome (lastMethodDoc?_isSome_iff.mpr hafter) _ _
    · rw [hpart]

/-! ### Steps -/

theorem SameLast.swap (before after : List Member) {a b : Member} (hp : List.Disjoint (propertyNames [a]) (propertyNames [b]))
    (hm : List.Disjoint (methodNames [a]) (methodNames [b])) :
    SameLast settings (before ++ [a, b] ++ after) (before ++ [b, a] ++ after) := by
  refine SameLast.middle (fun name => .inr ?_) (fun name => .inr ?_)
  · rw [lastPropertyDoc?_pair, lastPropertyDoc?_pair]
    refine or_comm_of_disjoint fun h => ?_
    rw [lastPropertyDoc?_isSome_iff, lastPropertyDoc?_isSome_iff] at h
    exact hp h.2 h.1
  · rw [lastMethodDoc?_pair, lastMethodDoc?_pair]
    refine or_comm_of_disjoint fun h => ?_
    rw [lastMethodDoc?_isSome_iff, lastMethodDoc?_isSome_iff] at h
    exact hm h.2 h.1

theorem SameLast.idle (before after : List Member) {a : Member} (hp : propertyNames [a] = []) (hm : methodNames [a] = []) :
    SameLast settings (before ++ [a] ++ after) (before ++ [] ++ after) := by
  refine SameLast.middle (fun name => .inr ?_) (fun name => .inr ?_)
  · have hnone : ¬ (lastPropertyDoc? settings name [a]).isSome := by simp [lastPropertyDoc?_isSome_iff, hp]
    exact Option.not_isSome_iff_eq_none.mp hnone
  · have hnone : ¬ (lastMethodDoc? settings name [a]).isSome := by simp [lastMethodDoc?_isSome_iff, hm]
    exact Option.not_isSome_iff_eq_none.mp hnone

theorem SameLast.split (before after : List Member) (p : Property) (front back : List PropertyItem) (line line' : Int) :
    SameLast settings (before ++ [.property { p with items := front ++ back }] ++ after)
      (before ++ [.property { p with items := front, line := line }, .property { p with items := back, line := line' }] ++ after) := by
  refine SameLast.middle (fun name => .inr ?_) (fun name => .inr rfl)
  rw [lastPropertyDoc?_pair, lastPropertyDoc?_property, Keyed.last?_append, Option.map_or]
  rw [lastPropertyDoc?_property, lastPropertyDoc?_property]
  -- neither the items nor the line of a statement count for the record of an item
  rfl

theorem SameLast.overriddenMethod (before : List Member) {after : List Member} {m : Method} (h : m.name ∈ methodNames after) :
    SameLast settings (before ++ [.method m] ++ after) (before ++ [] ++ after) := by
  refine SameLast.middle (fun name => .inr rfl) (fun name => ?_)
  by_cases hname : m.name = name
  · exact .inl (hname ▸ h)
  · refine .inr ?_
    simp [lastMethodDoc?, methodsOf, memberMethods, Keyed.last?_cons, hname]

theorem SameLast.overriddenItem (before : List Member) {after : List Member} (p : Property) (front : List PropertyItem)
    {back : List PropertyItem} {item : PropertyItem}
    (h : item.name ∈ back.map PropertyItem.name ∨ item.name ∈ propertyNames after) :
    SameLast settings (before ++ [.property { p with items := front ++ item :: back }] ++ after)
      (before ++ [.property { p with items := front ++ back }] ++ after) := by
  refine SameLast.middle (fun name => ?_) (fun name => .inr rfl)
  by_cases hname : item.name = name
  · subst hname
    rcases h with hback | hafter
    · refine .inr ?_
      rw [lastPropertyDoc?_property, lastPropertyDoc?_property, Keyed.last?_append, Keyed.last?_append, Keyed.last?_cons,
        Option.or_assoc, or_eq_of_isSome (Keyed.last?_isSome_iff.mpr hback) _ (Keyed.last? PropertyItem.name item.name front)]
      rfl
    · exact .inl hafter
  · refine .inr ?_
    rw [lastPropertyDoc?_property, lastPropertyDoc?_property, Keyed.last?_append, Keyed.last?_append, Keyed.last?_cons,
      if_neg hname, Option.or_none]
    rfl

theorem SameLast.of_rearranged {members members' : List Member} (h : Rearranged members members') :
    SameLast settings members members' := by
  cases h with
  | swap before after a b hp hm => exact SameLast.swap before after hp hm
  | idle before after a hp hm => exact SameLast.idle before after hp hm
  | split before after p front back line line' => exact SameLast.split before after p front back line line'
  | overriddenMethod before after m h => exact SameLast.overriddenMethod before h
  | overriddenItem before after p front back item h => exact SameLast.overriddenItem before p front h

theorem SameLast.of_eqvGen {members members' : List Member} (h : Relation.EqvGen Rearranged members members') :
    SameLast settings members members' := by
  induction h with
  | rel _ _ h => exact SameLast.of_rearranged h
  | refl _ => exact ⟨fun _ => rfl, fun _ => rfl⟩
  | symm _ _ _ ih => exact ⟨fun name => (ih.property name).symm, fun name => (ih.method name).symm⟩
  | trans _ _ _ _ _ ih ih' =>
    exact ⟨fun name => (ih.property name).trans (ih'.property name), fun name => (ih.method name).trans (ih'.method name)⟩

/-! ### Equal records -/

theorem SameLast.last?_properties {members members' : List Member} (h : SameLast settings members members')
    {ps ps' : List PropertyDoc} (hps : (propertyItems members).mapM (fun e => propertyDoc settings e.1 e.2) = .ok ps)
    (hps' : (propertyItems members').mapM (fun e => propertyDoc settings e.1 e.2) = .ok ps') (name : String) :
    Keyed.last? PropertyDoc.name name ps = Keyed.last? PropertyDoc.name name ps' := by
  have heq := h.property name
  rw [lastPropertyDoc?, lastPropertyDoc?, last?_of_mapM (fun _ _ => name_of_propertyDoc) hps,
    last?_of_mapM (fun _ _ => name_of_propertyDoc) hps'] at heq
  exact Option.map_injective (fun _ _ => Except.ok.inj) heq

theorem SameLast.last?_methods {members members' : List Member} (h : SameLast settings members members')
    {ms ms' : List MethodDoc} (hms : (methodsOf members).mapM (methodDoc settings) = .ok ms)
    (hms' : (methodsOf members').mapM (methodDoc settings) = .ok ms') (name : String) :
    Keyed.last? (fun d : MethodDoc => d.name) name ms = Keyed.last? (fun d : MethodDoc => d.name) name ms' := by
  have heq := h.method name
  rw [lastMethodDoc?, lastMethodDoc?, last?_of_mapM (fun _ _ => name_of_methodDoc) hms,
    last?_of_mapM (fun _ _ => name_of_methodDoc) hms'] at heq
  exact Option.map_injective (fun _ _ => Except.ok.inj) heq

/-- **The last declaration of each name decides.** Classes of one name and comment whose last declarations have the same records have the same record, members in order included; and the last declarations are the same after rearranging members. -/
theorem classDoc_eq_of_sameLast (hs : settings.PatternsCompile) {c c' : ClassDecl} (hname : c.name = c'.name)
    (hcomments : c.comments = c'.comments) (hshort : ∀ name, Declares c.members name → ¬ HasLongDigits name)
    (namespaceName : String) :
    (SameLast settings c.members c'.members →
      ∃ doc, classDoc settings namespaceName c = .ok doc ∧ classDoc settings namespaceName c' = .ok doc)
      ∧ (Relation.EqvGen Rearranged c.members c'.members → SameLast settings c.members c'.members) := by
  refine ⟨fun hsame => ?_, SameLast.of_eqvGen⟩
  obtain ⟨ps, hps⟩ := exists_propertyDocs hs c.members
  obtain ⟨ms, hms⟩ := exists_methodDocs hs c.members
  obtain ⟨ps', hps'⟩ := exists_propertyDocs hs c'.members
  obtain ⟨ms', hms'⟩ := exists_methodDocs hs c'.members
  obtain ⟨parsed, hparsed⟩ := exists_parseComment hs .plain (selectComment settings.commentSelection c.comments)
  -- each table has the same last records, hence the same order
  obtain ⟨properties, hp, hp'⟩ : ∃ r, sortProperties (Keyed.putAll PropertyDoc.name ps []) = .ok r
      ∧ sortProperties (Keyed.putAll PropertyDoc.name ps' []) = .ok r := by
    refine sortBy_putAll_eq (tellsNames_naturalKey PropertyDoc.name) (fun name hmem => hshort name (.inl ?_))
      (hsame.last?_properties hps hps')
    rwa [map_name_of_mapM (fun _ _ => name_of_propertyDoc) hps] at hmem
  obtain ⟨methods, hm, hm'⟩ : ∃ r, sortMethods (Keyed.putAll (fun d => d.name) ms []) = .ok r
      ∧ sortMethods (Keyed.putAll (fun d => d.name) ms' []) = .ok r := by
    refine sortBy_putAll_eq tellsNames_methodKey (fun name hmem => hshort name (.inr ?_)) (hsame.last?_methods hms hms')
    rwa [map_name_of_mapM (fun _ _ => name_of_methodDoc) hms] at hmem
  have hdoc := classDoc_eq hps hms hparsed namespaceName
  have hdoc' := classDoc_eq hps' hms' (hcomments ▸ hparsed) namespaceName
  rw [hp, hm] at hdoc
  rw [hp', hm', ← hname, ← hcomments] at hdoc'
  exact ⟨_, hdoc, hdoc'⟩

def bareItem (name : String) : PropertyItem := ⟨name, none, []⟩

def publicProperty (items : List PropertyItem) (line : Int) : Property := ⟨items, 1, some "int", [], line⟩

def plainMethod (name : String) (flags : Int) : Method := ⟨name, flags, [], none, [], 4⟩

/-- Members with two names of one numeric value, and a static method that is declared again. -/
def sampleMembers : List Member :=
  [.method (plainMethod "run" 9), .property (publicProperty [bareItem "a1", bareItem "a01"] 2), .method (plainMethod "run" 1)]

/-- The same last declarations in another order. -/
def movedMembers : List Member :=
  [.property (publicProperty [bareItem "a1"] 7), .method (plainMethod "run" 1), .other ⟨"Stmt_TraitUse", [], 3⟩,
    .property (publicProperty [bareItem "a01"] 8)]

theorem rearranged_sampleMembers : Relation.EqvGen Rearranged sampleMembers movedMembers := by
  have hdrop := Rearranged.overriddenMethod [] sampleMembers.tail (plainMethod "run" 9) (by decide)
  have hsplit := Rearranged.split [] [.method (plainMethod "run" 1)] (publicProperty [] 2) [bareItem "a1"] [bareItem "a01"] 7 8
  have hswap := Rearranged.swap [.property (publicProperty [bareItem "a1"] 7)] [] (.property (publicProperty [bareItem "a01"] 8))
    (.method (plainMethod "run" 1)) (List.disjoint_nil_right _) (List.disjoint_nil_left _)
  have hidle := Rearranged.idle [.property (publicProperty [bareItem "a1"] 7), .method (plainMethod "run" 1)]
    [.property (publicProperty [bareItem "a01"] 8)] (.other ⟨"Stmt_TraitUse", [], 3⟩) rfl rfl
  exact .trans _ _ _ (.rel _ _ hdrop) (.trans _ _ _ (.rel _ _ hsplit)
    (.trans _ _ _ (.rel _ _ hswap) (.symm _ _ (.rel _ _ hidle))))

theorem classDoc_movedMembers :
    Relation.EqvGen Rearranged sampleMembers movedMembers
      ∧ ∃ doc, classDoc Settings.default "App" ⟨"Sample", sampleMembers, 0, [], 1⟩ = .ok doc
        ∧ classDoc Settings.default "App" ⟨"Sample", movedMembers, 0, [], 6⟩ = .ok doc := by
  have hshort : ∀ name, Declares sampleMembers name → ¬ HasLongDigits name := by
    intro name hname
    refine not_hasLongDigits_of_length ?_
    have hnames : name ∈ ["a1", "a01"] ∨ name ∈ ["run", "run"] := hname
    simp only [List.mem_cons, List.not_mem_nil, or_false] at hnames
    rcases hnames with (rfl | rfl) | (rfl | rfl) <;> decide
  obtain ⟨hdoc, hsame⟩ := @classDoc_eq_of_sameLast Settings.default patternsCompile_default
    ⟨"Sample", sampleMembers, 0, [], 1⟩ ⟨"Sample", movedMembers, 0, [], 6⟩ rfl rfl hshort "App"
  exact ⟨rearranged_sampleMembers, hdoc (hsame rearranged_sampleMembers)⟩

end ApiDoc.Record
