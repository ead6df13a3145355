import ApiDoc.Proofs.Keyed
import ApiDoc.Proofs.Logging.Names
import ApiDoc.Proofs.Yaml.Keys

/-!
# Qualified names in a configuration

The loggers of the package may go by short names in a file. When the file is read, each section of a short name is kept under the full name of its logger, and all other sections stay under their names. Names of different loggers stay different, so a section can only get lost to another section of the same logger, one being named in short and the other in full; the later one is kept.

* `mem_qualify_iff`: the sections that are there after short names were replaced.
* `keys_sections_nodup`: no name stands twice in what is read from a file, which is all that the replacement needs.
* `load_qualified` puts this together.
-/

namespace ApiDoc.Logging

open Yaml (Scalar Value)

variable {α : Type}

/-! ### Replacing short names -/

theorem get?_qualify (name : String) (sections : Keyed α) :
    Keyed.get? name (qualify sections) = (Keyed.last? (fun s => sectionName s.1) name sections).map Prod.snd := by
  rw [qualify, Keyed.get?_ofList, Keyed.last?_map, Option.map_map]
  rfl

theorem nodup_keys_qualify (sections : Keyed α) : (Keyed.keys (qualify sections)).Nodup := Keyed.nodup_keys_ofList _

/-- **The section of a name is the last one whose logger has that name.** -/
theorem mem_qualify_iff {name : String} {v : α} {sections : Keyed α} :
    (name, v) ∈ qualify sections ↔
      ∃ before spelled after, sections = before ++ (spelled, v) :: after ∧ sectionName spelled = name ∧
        ∀ later ∈ after, sectionName later.1 ≠ name := by
  rw [Keyed.mem_iff_get? (nodup_keys_qualify sections), get?_qualify, Option.map_eq_some_iff]
  constructor
  · rintro ⟨⟨spelled, w⟩, hlast, rfl⟩
    obtain ⟨before, after, hsections, hname, hafter⟩ := Keyed.last?_eq_some_iff.mp hlast
    exact ⟨before, spelled, after, hsections, hname, hafter⟩
  · rintro ⟨before, spelled, after, hsections, hname, hafter⟩
    exact ⟨(spelled, v), Keyed.last?_eq_some_iff.mpr ⟨before, after, hsections, hname, hafter⟩, rfl⟩

theorem exists_of_mem_qualify {e : String × α} {sections : Keyed α} (h : e ∈ qualify sections) :
    ∃ e' ∈ sections, e = (sectionName e'.1, e'.2) := by
  obtain ⟨before, spelled, after, hsections, hname, -⟩ := mem_qualify_iff.mp h
  refine ⟨(spelled, e.2), ?_, by rw [hname]⟩
  rw [hsections]
  exact List.mem_append_right _ List.mem_cons_self

theorem not_isPackageName_of_mem_qualify {name : String} {sections : Keyed α} (h : name ∈ Keyed.keys (qualify sections)) :
    isPackageName name = false := by
  obtain ⟨e, he, rfl⟩ := List.mem_map.mp h
  obtain ⟨e', -, rfl⟩ := exists_of_mem_qualify he
  exact isPackageName_sectionName e'.1

theorem qualify_qualify (sections : Keyed α) : qualify (qualify sections) = qualify sections := by
  have hnames : (qualify sections).map (fun s => (sectionName s.1, s.2)) = qualify sections := by
    conv_rhs => rw [← List.map_id (qualify sections)]
    apply List.map_congr_left
    intro e he
    have hfull : isPackageName e.1 = false := not_isPackageName_of_mem_qualify (List.mem_map.mpr ⟨e, he, rfl⟩)
    rw [sectionName_of_not_isPackageName hfull]
    rfl
  conv_lhs => rw [qualify, hnames]
  exact Keyed.ofList_of_nodup (nodup_keys_qualify sections)

section

variable {sections : Keyed α} (hnodup : (Keyed.keys sections).Nodup)
include hnodup

/-- A section stays unless its logger is named in the other way too. -/
theorem mem_qualify_of_unspelled {e : String × α} (he : e ∈ sections)
    (hother : ∀ other ∈ Keyed.keys sections, ¬ Spellings e.1 other) : (sectionName e.1, e.2) ∈ qualify sections := by
  obtain ⟨before, after, rfl⟩ := List.append_of_mem he
  refine mem_qualify_iff.mpr ⟨before, e.1, after, rfl, rfl, fun later hlater hname => ?_⟩
  have hkey : later.1 ∈ Keyed.keys (before ++ e :: after) :=
    List.mem_map_of_mem (List.mem_append_right _ (List.mem_cons_of_mem _ hlater))
  rcases spellings_of_sectionName_eq hname.symm with heq | hspellings
  · rw [Keyed.keys, List.map_append, List.map_cons, List.nodup_append] at hnodup
    exact (List.nodup_cons.mp hnodup.2.1).1 (heq ▸ List.mem_map_of_mem hlater)
  · exact hother _ hkey hspellings

theorem mem_qualify_of_spellings {before between after : Keyed α} {e later : String × α}
    (hsections : sections = before ++ e :: between ++ later :: after) (hspellings : Spellings e.1 later.1) :
    (sectionName e.1, later.2) ∈ qualify sections := by
  refine mem_qualify_iff.mpr ⟨before ++ e :: between, later.1, after, hsections, hspellings.symm.sectionName_eq, ?_⟩
  intro last hlast hname
  rw [hsections, Keyed.keys, List.map_append, List.map_append, List.map_cons, List.map_cons, List.nodup_append] at hnodup
  obtain ⟨-, hlater, hdisjoint⟩ := hnodup
  have hlast' : last.1 ∈ after.map Prod.fst := List.mem_map_of_mem hlast
  rcases spellings_of_sectionName_eq hname with heq | hspellings'
  · exact hdisjoint e.1 (List.mem_append_right _ List.mem_cons_self) last.1 (List.mem_cons_of_mem _ hlast') heq.symm
  · -- a logger is named in two ways at most
    rw [hspellings.unique hspellings'.symm] at hlater
    exact (List.nodup_cons.mp hlater).1 hlast'

end

/-! ### Reading a file -/

def asEntries (sections : Keyed Value) : List (Scalar × Value) := sections.map fun s => (.str s.1, s.2)

theorem nodup_of_apart {sections : Keyed Value} (h : Yaml.Apart (asEntries sections)) : (Keyed.keys sections).Nodup := by
  rw [Yaml.Apart, asEntries, List.map_map, List.pairwise_map] at h
  rw [Keyed.keys, List.Nodup, List.pairwise_map]
  refine h.imp fun hkeys => ?_
  rw [Function.comp_apply, Function.comp_apply, Bool.eq_false_iff] at hkeys
  exact fun heq => hkeys (Yaml.sameKey_str_iff.mpr (by rw [heq]))

theorem apart_of_orEmpty {v : Value} {entries : List (Scalar × Value)} (hv : v = .null ∨ Yaml.IsRead v)
    (h : orEmpty v = .map entries) : Yaml.Apart entries ∧ ∀ e ∈ entries, Yaml.IsRead e.2 := by
  unfold orEmpty at h
  split at h
  · subst h
    rcases hv with hnull | hread
    · cases hnull
    · exact ⟨hread.apart, fun e he => hread.of_mem he⟩
  · cases h
    exact ⟨Yaml.apart_nil, by simp⟩

/-- **No name stands twice among the sections that a file has for loggers.** -/
theorem keys_sections_nodup {files : Storage.Files} {path : String} {document : Value} {entries : List (Scalar × Value)}
    {sections : Keyed Value} (hdocument : readDocument files path = .ok document) (hentries : orEmpty document = .map entries)
    (hsections : orEmpty ((Value.find? (.str "loggers") entries).getD .null) = .map (asEntries sections)) :
    (Keyed.keys sections).Nodup := by
  obtain ⟨bytes, -, hdocument⟩ := bind_eq_ok_iff.mp hdocument
  obtain ⟨text, -, hdocument⟩ := bind_eq_ok_iff.mp hdocument
  have hread := Yaml.isRead_of_read (mapError_eq_ok_iff.mp hdocument)
  obtain ⟨-, hvalues⟩ := apart_of_orEmpty hread hentries
  have hloggers : (Value.find? (.str "loggers") entries).getD .null = .null ∨
      Yaml.IsRead ((Value.find? (.str "loggers") entries).getD .null) := by
    cases hfind : Value.find? (.str "loggers") entries with
    | none => exact .inl rfl
    | some v =>
      obtain ⟨e, he, rfl⟩ := Yaml.mem_of_find? hfind
      exact .inr (hvalues e he)
  exact nodup_of_apart (apart_of_orEmpty hloggers hsections).1

theorem namedSections_asEntries (sections : Keyed Value) (s : LogState) :
    ∃ r, namedSections (asEntries sections) s = .ok sections { s with registry := r } := by
  induction sections generalizing s with
  | nil => exact ⟨s.registry, rfl⟩
  | cons e rest ih =>
    obtain ⟨name, v⟩ := e
    show ∃ r, namedSections ((.str name, v) :: asEntries rest) s = .ok ((name, v) :: rest) { s with registry := r }
    cases h : isPackageName name with
    | true =>
      obtain ⟨r, hrest⟩ := ih { s with registry := (s.registry.ensure familyName).ensure (fullName name) }
      refine ⟨r, ?_⟩
      simp only [namedSections, h]
      exact (bind_of_eq_ok rfl).trans (bind_of_eq_ok hrest)
    | false =>
      obtain ⟨r, hrest⟩ := ih s
      refine ⟨r, ?_⟩
      simp only [namedSections, h]
      exact bind_of_eq_ok hrest

theorem mappingOf_asEntries {document : Value} {entries : List (Scalar × Value)} {sections : Keyed Value}
    (hentries : orEmpty document = .map entries)
    (hsections : orEmpty ((Value.find? (.str "loggers") entries).getD .null) = .map (asEntries sections)) (s : LogState) :
    ∃ r, mappingOf document s =
      .ok (.map (Value.put (.str "loggers") (.map (asEntries (qualify sections))) entries)) { s with registry := r } := by
  obtain ⟨r, hnamed⟩ := namedSections_asEntries sections s
  refine ⟨r, ?_⟩
  simp only [mappingOf, hentries, hsections]
  exact bind_of_eq_ok hnamed

theorem hasFile_of_readDocument {files : Storage.Files} {path : String} {document : Value}
    (h : readDocument files path = .ok document) : hasFile files path = .ok true := by
  obtain ⟨bytes, hbytes, -⟩ := bind_eq_ok_iff.mp h
  have hread := mapError_eq_ok_iff.mp hbytes
  unfold Storage.Files.read at hread
  split at hread
  · cases hread
  · rename_i place hlocate
    split at hread
    · rename_i hentry
      simp only [hasFile, Storage.Files.exists, hlocate, hentry, Option.isSome_some]
    · cases hread
    · cases hread

theorem load_of_readDocument {source : LogSource} {path : String} {document mapping : Value} {s s' : LogState}
    (hnew : source.mapping = none) (hpath : source.path = some path) (hdocument : readDocument s.files path = .ok document)
    (hmapping : mappingOf document s = .ok mapping s') :
    source.load s = .ok (mapping, { source with mapping := some mapping }) s' := by
  have hthere : Logs.lift (source.path.filterM (hasFile s.files)) s = .ok (some path) s := by
    rw [hpath]
    simp only [Option.filterM, hasFile_of_readDocument hdocument]
    rfl
  have hread : source.readMapping s = .ok mapping s' := by
    refine (bind_of_eq_ok (get_eq_ok s)).trans ((bind_of_eq_ok hthere).trans ?_)
    simp only [hdocument]
    exact hmapping
  simp only [LogSource.load, hnew]
  exact bind_of_eq_ok hread

/-- **Replacing short names loses no section by accident.** Of a file whose document is a mapping, or empty, and whose section for loggers is a mapping with strings as keys, or missing or empty, a mapping is loaded whose section for loggers has no short name and no name twice. A section stays, under its own name or under the full name in place of a short one, unless the file names the same logger in the other way too; then the later of the two sections stays. No other sections are there, and replacing short names once more changes nothing. -/
theorem load_qualified {source : LogSource} {s : LogState} {path : String} {document : Value} {entries : List (Scalar × Value)}
    {sections : Keyed Value} (hnew : source.mapping = none) (hpath : source.path = some path)
    (hdocument : readDocument s.files path = .ok document) (hentries : orEmpty document = .map entries)
    (hsections : orEmpty ((Value.find? (.str "loggers") entries).getD .null) = .map (asEntries sections)) :
    ∃ mapping named s', source.load s = .ok (mapping, { source with mapping := some mapping }) s' ∧
      mapping.get? "loggers" = some (.map (asEntries named)) ∧
      (Keyed.keys named).Nodup ∧
      (∀ name ∈ Keyed.keys named, isPackageName name = false) ∧
      (∀ e ∈ sections, isPackageName e.1 = false → (∀ other ∈ Keyed.keys sections, ¬ Spellings e.1 other) → e ∈ named) ∧
      (∀ e ∈ sections, isPackageName e.1 = true → (∀ other ∈ Keyed.keys sections, ¬ Spellings e.1 other) →
        (familyName ++ "." ++ e.1, e.2) ∈ named) ∧
      (∀ before e between later after, sections = before ++ e :: between ++ later :: after → Spellings e.1 later.1 →
        (sectionName e.1, later.2) ∈ named) ∧
      (∀ e ∈ named, ∃ e' ∈ sections, e = (sectionName e'.1, e'.2)) ∧
      qualify named = named := by
  have hnodup := keys_sections_nodup hdocument hentries hsections
  obtain ⟨r, hmapping⟩ := mappingOf_asEntries hentries hsections s
  refine ⟨_, qualify sections, _, load_of_readDocument hnew hpath hdocument hmapping, ?_, nodup_keys_qualify sections,
    fun name hname => not_isPackageName_of_mem_qualify hname, ?_, ?_, ?_, fun e he => exists_of_mem_qualify he,
    qualify_qualify sections⟩
  · rw [Value.get?, Yaml.find?_put_self (Yaml.sameKey_str_iff.mpr rfl)]
  · intro e he hfull hother
    have hmem := mem_qualify_of_unspelled hnodup he hother
    rw [sectionName_of_not_isPackageName hfull] at hmem
    exact hmem
  · intro e he hshort hother
    have hmem := mem_qualify_of_unspelled hnodup he hother
    rw [sectionName_of_isPackageName hshort] at hmem
    exact hmem
  · intro before e between later after heq hspellings
    exact mem_qualify_of_spellings hnodup heq hspellings

/-- A configuration with a name that only looks like one of the package, and with one logger named in both ways. -/
def spelledText : String :=
  "version: 1\nloggers:\n  phpdoc_tree: a\n  phpdoc_tree2: b\n  prefect.phpdoc_tree.x: c\n  phpdoc_tree.x: d\n"

def spelledSections : Keyed Value :=
  [("phpdoc_tree", .str "a"), ("phpdoc_tree2", .str "b"), ("prefect.phpdoc_tree.x", .str "c"), ("phpdoc_tree.x", .str "d")]

def spelledEntries : List (Scalar × Value) := [(.str "version", .int 1), (.str "loggers", .map (asEntries spelledSections))]

def spelledState : LogState := ⟨.empty, [(⟨0, ["logging.yml"]⟩, .file spelledText.toUTF8.toList)], []⟩

theorem readDocument_spelledText : readDocument spelledState.files "logging.yml" = .ok (.map spelledEntries) := by
  have hbytes : Storage.Files.read spelledState.files "logging.yml" = .ok spelledText.toUTF8.toList := rfl
  have htext : Text.decodeInChunks spelledText.toUTF8.toList = .ok spelledText.toList := by decide +kernel
  have hvalue : Yaml.read spelledText.toList = .ok (.map spelledEntries) := rfl
  simp only [readDocument, hbytes, htext, hvalue, Except.mapError, bind, Except.bind]

theorem load_spelledText :
    ∃ mapping named s', LogSource.load ⟨some "logging.yml", .default, none⟩ spelledState =
        .ok (mapping, ⟨some "logging.yml", .default, some mapping⟩) s' ∧
      mapping.get? "loggers" = some (.map (asEntries named)) ∧ ("prefect.phpdoc_tree", .str "a") ∈ named ∧
      ("phpdoc_tree2", .str "b") ∈ named ∧ ("prefect.phpdoc_tree.x", .str "d") ∈ named ∧
      "phpdoc_tree.x" ∉ Keyed.keys named := by
  obtain ⟨mapping, named, s', hload, hloggers, -, hshort, hkept, hqualified, hlater, -, -⟩ :=
    @load_qualified ⟨some "logging.yml", .default, none⟩ spelledState "logging.yml" _ spelledEntries spelledSections rfl rfl
      readDocument_spelledText rfl rfl
  refine ⟨mapping, named, s', hload, hloggers, ?_, ?_, ?_, fun hmem => ?_⟩
  · exact hqualified ("phpdoc_tree", .str "a") List.mem_cons_self (by decide +kernel) (by decide +kernel)
  · exact hkept ("phpdoc_tree2", .str "b") (List.mem_cons_of_mem _ List.mem_cons_self) (by decide +kernel)
      (by decide +kernel)
  · exact hlater (spelledSections.take 2) ("prefect.phpdoc_tree.x", .str "c") [] ("phpdoc_tree.x", .str "d") [] rfl
      (by decide +kernel)
  · have hfull := hshort _ hmem
    cases hfull

end ApiDoc.Logging
