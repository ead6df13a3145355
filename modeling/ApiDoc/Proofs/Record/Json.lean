import ApiDoc.Proofs.Json.RoundTrip
import ApiDoc.Proofs.Record.Documents
import ApiDoc.Proofs.Syntax.Flags
import ApiDoc.Record.Json

/-!
# Documentation comes back from its JSON text

The JSON form of a documentation is read back from its text, as long as the flags in the tree are short (`faithful_of_build`). The names in all its tables are distinct, whatever names the declarations have, because a table is only ever written name by name (`Keyed.Tidy`). The only numbers in it are the flags of members without a visibility; a default value is a text.
-/

namespace ApiDoc.Record

open Syntax DocComment
open Json (Faithful)
open Keyed (Tidy)
open Number (IsShort)

variable {settings : Settings}

/-! ### Parts of a record -/

theorem faithful_optionJson {α : Type} {f : α → Json} (hf : ∀ a, Faithful (f a)) (a : Option α) : Faithful (optionJson f a) := by
  cases a with
  | none => exact .null
  | some a => exact hf a

theorem faithful_arr {α : Type} {f : α → Json} (hf : ∀ a, Faithful (f a)) (as : List α) : Faithful (.arr (as.map f)) := by
  refine .arr fun item hitem => ?_
  obtain ⟨a, -, rfl⟩ := List.mem_map.mp hitem
  exact hf a

theorem faithful_keyedJson {α : Type} {f : α → Json} {m : Keyed α} (h : Tidy (fun a => Faithful (f a)) m) :
    Faithful (keyedJson f m) := by
  have hkeys : Keyed.keys (m.map fun e => (e.1, f e.2)) = Keyed.keys m := by
    rw [Keyed.keys, List.map_map]
    rfl
  refine .obj (hkeys ▸ h.nodup) fun e he => ?_
  obtain ⟨e', he', rfl⟩ := List.mem_map.mp he
  exact h.forall_mem e' he'

theorem faithful_members (names : List String) (hnames : names.Nodup) {members : List (String × Json)}
    (hkeys : Keyed.keys members = names) (h : ∀ e ∈ members, Faithful e.2) : Faithful (.obj members) := .obj (hkeys ▸ hnames) h

theorem faithful_returnJson (r : ReturnTag) : Faithful (returnJson r) := by
  refine faithful_members ["type", "text"] (by decide) rfl ?_
  simp only [List.forall_mem_cons]
  exact ⟨.str _, .str _, by simp⟩

theorem faithful_paramTagJson (p : ParamTag) : Faithful (paramTagJson p) := by
  refine faithful_members ["type", "name", "text"] (by decide) rfl ?_
  simp only [List.forall_mem_cons]
  exact ⟨.str _, .str _, .str _, by simp⟩

theorem faithful_parsedJson (p : Parsed) : Faithful (parsedJson p) := by
  refine faithful_members ["summary", "description", "returns", "params", "todo"] (by decide) rfl ?_
  simp only [List.forall_mem_cons]
  exact ⟨.str _, .str _, faithful_optionJson faithful_returnJson _, faithful_arr faithful_paramTagJson _, faithful_arr .str _,
    by simp⟩

theorem faithful_paramJson (p : ParamDoc) : Faithful (paramJson p) := by
  refine faithful_members ["type", "name", "default", "by_ref", "variadic"] (by decide) rfl ?_
  simp only [List.forall_mem_cons]
  exact ⟨.str _, .str _, .str _, .bool _, .bool _, by simp⟩

theorem faithful_visibilityJson {flags : Int} (h : IsShort flags) : Faithful (visibilityJson (visibilityOf flags)) := by
  rw [visibilityOf]
  split_ifs
  · exact .str _
  · exact .str _
  · exact .str _
  · exact .int h

/-! ### Records of members -/

theorem faithful_functionMembers (f : FunctionDoc) : ∀ e ∈ functionMembers f, Faithful e.2 := by
  simp only [functionMembers, List.forall_mem_cons]
  exact ⟨.str _, .str _, faithful_arr faithful_paramJson _, .str _, faithful_optionJson faithful_parsedJson _, by simp⟩

theorem faithful_functionJson (f : FunctionDoc) : Faithful (functionJson f) :=
  faithful_members ["name", "type", "params", "raw_comment", "parsed_comment"] (by decide) rfl (faithful_functionMembers f)

theorem faithful_propertyJson {d : PropertyDoc} (h : Faithful (visibilityJson d.visibility)) : Faithful (propertyJson d) := by
  refine faithful_members ["name", "type", "default", "visibility", "is_static", "raw_comment", "parsed_comment"] (by decide) rfl ?_
  simp only [List.forall_mem_cons]
  exact ⟨.str _, .str _, .str _, h, .bool _, .str _, faithful_optionJson faithful_parsedJson _, by simp⟩

theorem faithful_methodJson {d : MethodDoc} (h : Faithful (visibilityJson d.visibility)) : Faithful (methodJson d) := by
  refine faithful_members ["name", "type", "params", "raw_comment", "parsed_comment", "visibility", "is_static", "is_abstract",
    "is_final"] (by decide) rfl ?_
  rw [List.forall_mem_append]
  refine ⟨faithful_functionMembers _, ?_⟩
  simp only [List.forall_mem_cons]
  exact ⟨h, .bool _, .bool _, .bool _, by simp⟩

theorem faithful_propertyDoc {p : Property} {item : PropertyItem} {doc : PropertyDoc} (h : propertyDoc settings p item = .ok doc)
    (hflags : IsShort p.flags) : Faithful (propertyJson doc) := by
  obtain ⟨parsed, -, h⟩ := bind_eq_ok_iff.mp h
  obtain rfl := Except.ok.inj h
  exact faithful_propertyJson (faithful_visibilityJson hflags)

theorem faithful_methodDoc {m : Method} {doc : MethodDoc} (h : methodDoc settings m = .ok doc) (hflags : IsShort m.flags) :
    Faithful (methodJson doc) := by
  obtain ⟨parsed, -, h⟩ := bind_eq_ok_iff.mp h
  obtain rfl := Except.ok.inj h
  exact faithful_methodJson (faithful_visibilityJson hflags)

/-! ### Tables of members -/

theorem tidy_addItems {p : Property} (hflags : IsShort p.flags) {ps ps' : Keyed PropertyDoc}
    (hps : Tidy (fun d => Faithful (propertyJson d)) ps) (h : addItems settings p ps p.items = .ok ps') :
    Tidy (fun d => Faithful (propertyJson d)) ps' := by
  rw [addItems_eq_foldlM] at h
  refine of_foldlM_eq_ok (fun item _ acc acc' hacc hitem => ?_) hps h
  obtain ⟨doc, hdoc, rfl⟩ := map_eq_ok_iff.mp hitem
  exact hacc.put _ (faithful_propertyDoc hdoc hflags)

structure Members.Faithful (acc : Members) : Prop where
  properties : Tidy (fun d => Json.Faithful (propertyJson d)) acc.properties
  methods : Tidy (fun d => Json.Faithful (methodJson d)) acc.methods

theorem faithful_addMember {member : Member} (hflags : member.ShortFlags) {acc acc' : Members} (hacc : acc.Faithful)
    (h : addMember settings acc member = .ok acc') : acc'.Faithful := by
  cases member with
  | property p =>
    obtain ⟨ps, hps, h⟩ := bind_eq_ok_iff.mp h
    obtain rfl := Except.ok.inj h
    exact ⟨tidy_addItems hflags hacc.properties hps, hacc.methods⟩
  | method m =>
    obtain ⟨doc, hdoc, h⟩ := bind_eq_ok_iff.mp h
    obtain rfl := Except.ok.inj h
    exact ⟨hacc.properties, hacc.methods.put _ (faithful_methodDoc hdoc hflags)⟩
  | other o => exact Except.ok.inj h ▸ hacc

theorem faithful_classDoc {namespaceName : String} {c : ClassDecl} {doc : ClassDoc}
    (hflags : ∀ m ∈ c.members, m.ShortFlags) (h : classDoc settings namespaceName c = .ok doc) : Faithful (classJson doc) := by
  obtain ⟨members, hmembers, h⟩ := bind_eq_ok_iff.mp h
  obtain ⟨parsed, -, h⟩ := bind_eq_ok_iff.mp h
  obtain ⟨properties, hproperties, h⟩ := bind_eq_ok_iff.mp h
  obtain ⟨methods, hmethods, h⟩ := bind_eq_ok_iff.mp h
  obtain rfl := Except.ok.inj h
  rw [mapError_eq_ok_iff] at hproperties hmethods
  have htables : members.Faithful := of_foldlM_eq_ok (fun member hmember _ _ => faithful_addMember (hflags member hmember))
    ⟨Keyed.tidy_nil, Keyed.tidy_nil⟩ hmembers
  refine faithful_members ["kind", "name", "namespace", "raw_comment", "parsed_comment", "properties", "methods"] (by decide) rfl ?_
  simp only [List.forall_mem_cons]
  exact ⟨.str _, .str _, .str _, .str _, faithful_optionJson faithful_parsedJson _,
    faithful_keyedJson (htables.properties.of_perm (NaturalOrder.perm_of_sortBy hproperties)),
    faithful_keyedJson (htables.methods.of_perm (NaturalOrder.perm_of_sortBy hmethods)), by simp⟩

theorem faithful_functionFileDoc {namespaceName raw : String} {fs : List FunctionDecl} {file : FunctionFileDoc}
    (h : functionFileDoc settings namespaceName raw fs = .ok file) : Faithful (functionFileJson file) := by
  obtain ⟨functions, hfunctions, h⟩ := bind_eq_ok_iff.mp h
  obtain ⟨parsed, -, h⟩ := bind_eq_ok_iff.mp h
  obtain rfl := Except.ok.inj h
  have htable : Tidy (fun d => Faithful (functionJson d)) functions := by
    refine of_foldlM_eq_ok (fun f _ acc acc' hacc hf => ?_) Keyed.tidy_nil hfunctions
    rw [addFunction_eq_map] at hf
    obtain ⟨doc, -, rfl⟩ := map_eq_ok_iff.mp hf
    exact hacc.put _ (faithful_functionJson doc)
  refine faithful_members ["kind", "namespace", "raw_comment", "parsed_comment", "functions"] (by decide) rfl ?_
  simp only [List.forall_mem_cons]
  exact ⟨.str _, .str _, .str _, faithful_optionJson faithful_parsedJson _, faithful_keyedJson htable, by simp⟩

/-! ### Documentation -/

variable {t : SourceTree} (hshort : ∀ s ∈ t.statements, s.ShortFlags)
include hshort

theorem shortFlags_of_mem_scannedBlocks {b : Block} (hb : b ∈ scannedBlocks t) : ∀ s ∈ b.body, s.ShortFlags := by
  have hcode : ∀ s ∈ codeOf t, s.ShortFlags := fun s hs => hshort s (List.mem_of_mem_filter hs)
  rw [scannedBlocks] at hb
  split at hb
  · rename_i name body comments line rest hstart
    rw [hstart] at hcode
    obtain ⟨s, hs, hb⟩ := List.mem_flatMap.mp hb
    have hflags := hcode s hs
    cases hflags with
    | block hbody =>
      obtain rfl := List.mem_singleton.mp hb
      exact hbody
    | _ => cases hb
  · obtain rfl := List.mem_singleton.mp hb
    exact hcode

theorem shortFlags_of_mem_scannedClasses {s : ScopedClass} (hs : s ∈ scannedClasses t) : ∀ m ∈ s.decl.members, m.ShortFlags := by
  obtain ⟨b, hb, hs⟩ := List.mem_flatMap.mp hs
  obtain ⟨statement, hstatement, hs⟩ := List.mem_flatMap.mp hs
  have hflags := shortFlags_of_mem_scannedBlocks hshort hb statement hstatement
  cases hflags with
  | classDecl hmembers =>
    obtain rfl := List.mem_singleton.mp hs
    exact hmembers
  | _ => cases hs

/-- **A documentation is read back from its text,** if the flags in the tree are short. -/
theorem faithful_of_build {docs : Documentation} (h : build settings t = .ok docs) : Faithful docs.toJson := by
  by_cases hclass : HoldsClass t
  · have htable := tabulated_classes hclass h
    refine faithful_keyedJson ⟨?_, fun ⟨name, d⟩ hd => ?_⟩
    · rw [htable.keys_eq]
      exact nodup_eraseDups _
    · obtain ⟨s, doc, hlast, hdoc, rfl, -⟩ := exists_class_of_mem hclass h hd
      exact faithful_classDoc (shortFlags_of_mem_scannedClasses hshort (Keyed.mem_of_last? hlast)) hdoc
  · obtain ⟨file, hfile, rfl⟩ := exists_functionFile hclass h
    refine faithful_keyedJson (Keyed.tidy_nil.put _ ?_)
    exact faithful_functionFileDoc hfile

end ApiDoc.Record
