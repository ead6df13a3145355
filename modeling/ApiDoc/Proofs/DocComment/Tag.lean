import ApiDoc.DocComment.Tag
import ApiDoc.Proofs.Text.Lines
import Mathlib.Data.Option.Basic

/-!
# Tag lines

How tag lines are read, without the tests that read them.

* `ofLine?_param`, `ofLine?_returns` and `ofLine?_todo` read a tag line from its pieces, whatever blanks stand between them.
* `Tag.WellFormed` says what the pieces of a tag are like once it has been read (`wellFormed_of_ofLine?`), and such a tag is read back from the line that `Tag.line` writes (`ofLine?_line`).
* `isSome_ofLine?`: a line is a tag line exactly when an at sign is its first character after any blanks.
-/

namespace ApiDoc.DocComment

open Text

/-! ### Words and names -/

/-- A word: not empty and without blanks. -/
def IsWord (s : List Char) : Prop := s ≠ [] ∧ NoBlank s

instance (s : List Char) : Decidable (IsWord s) := inferInstanceAs (Decidable (s ≠ [] ∧ NoBlank s))

/-- Whether a text starts as a name does, with a sigil and a character that is no blank. -/
def startsName : List Char → Bool
  | '$' :: c :: _ => !isBlank c
  | _ => false

theorem splitName_named {name rest : List Char} (hname : IsWord name) (hrest : StartsBlank rest) :
    splitName ('$' :: name ++ rest) = ('$' :: name, dropBlanks rest) := by
  have hsigil : NoBlank ('$' :: name) := by
    intro c hc
    rcases List.mem_cons.mp hc with rfl | hc
    · decide
    · exact hname.2 c hc
  have hspan := spanWord_append hsigil hrest
  obtain ⟨c, name, rfl⟩ := List.exists_cons_of_ne_nil hname.1
  rw [splitName, hspan]
  rfl

theorem splitName_unnamed {text : List Char} (h : startsName text = false) : splitName text = ([], text) := by
  rw [splitName]
  obtain ⟨hparts, hword, -⟩ := spanWord_spec text
  split
  · rename_i c name rest hspan
    rw [hspan] at hparts hword
    have hc : isBlank c = false := hword c (by simp)
    rw [← hparts] at h
    simp [startsName, hc] at h
  · rfl

/-! ### Reading a tag from its pieces -/

/-- The word of a parameter tag. -/
def paramWord : List Char := ['@', 'p', 'a', 'r', 'a', 'm']

/-- The word of a result tag. -/
def returnWord : List Char := ['@', 'r', 'e', 't', 'u', 'r', 'n']

/-- The word of a reminder tag. -/
def todoWord : List Char := ['@', 't', 'o', 'd', 'o']

theorem after?_eq_some {word s rest : List Char} : after? word s = some rest ↔ s = word ++ rest := by
  rw [after?]
  split_ifs with hprefix
  · obtain ⟨later, rfl⟩ := List.isPrefixOf_iff_prefix.mp hprefix
    simp
  · simp only [false_iff]
    rintro rfl
    exact hprefix (List.isPrefixOf_iff_prefix.mpr (List.prefix_append _ _))

theorem ofText?_eq (s : List Char) :
    Tag.ofText? s = (((after? paramWord s).bind param?) <|> ((after? returnWord s).bind returns?)
      <|> ((after? todoWord s).bind todo?) <|> ((after? ['@'] s).map fun _ => .other)) := by
  have hparam : "@param".toList = paramWord := by decide
  have hreturn : "@return".toList = returnWord := by decide
  have htodo : "@todo".toList = todoWord := by decide
  have hat : "@".toList = ['@'] := by decide
  rw [Tag.ofText?, hparam, hreturn, htodo, hat]

theorem blankWord?_written {gap word rest : List Char} (hgap : AllBlank gap) (hne : gap ≠ []) (hword : IsWord word)
    (hrest : StartsBlank rest) : blankWord? (gap ++ (word ++ rest)) = some (word, rest) := by
  obtain ⟨c, word, rfl⟩ := List.exists_cons_of_ne_nil hword.1
  have hsolid : StartsSolid (c :: word ++ rest) := startsSolid_cons.mpr (hword.2 c List.mem_cons_self)
  have hblanks := spanBlanks_append hgap hsolid
  have hspan := spanWord_append hword.2 hrest
  obtain ⟨d, gap, rfl⟩ := List.exists_cons_of_ne_nil hne
  rw [blankWord?, hblanks]
  simp only [hspan]

theorem blankWord?_spec {s word rest : List Char} (h : blankWord? s = some (word, rest)) :
    IsWord word ∧ rest <:+ s := by
  obtain ⟨hparts, -, -⟩ := spanBlanks_spec s
  rw [blankWord?] at h
  split at h
  · rename_i c blanks later hblanks
    obtain ⟨hsplit, hword, -⟩ := spanWord_spec later
    split at h
    · simp at h
    · rename_i hnonempty
      simp only [Option.some.injEq] at h
      rw [h] at hsplit hword
      refine ⟨⟨fun hempty => hnonempty rest (by rw [h, hempty]), hword⟩, ?_⟩
      rw [hblanks] at hparts
      exact ⟨c :: blanks ++ word, by rw [← hparts, ← hsplit]; simp⟩
  · simp at h

theorem dropBlanks_at {lead s : List Char} (hlead : AllBlank lead) : dropBlanks (lead ++ '@' :: s) = '@' :: s :=
  dropBlanks_append hlead (startsSolid_cons.mpr (by decide))

theorem ofLine?_param {lead gap type rest : List Char} (hlead : AllBlank lead) (hgap : AllBlank gap) (hne : gap ≠ [])
    (htype : IsWord type) (hrest : StartsBlank rest) :
    Tag.ofLine? (lead ++ (paramWord ++ (gap ++ (type ++ rest)))) =
      some (.param type (splitName (dropBlanks rest)).1 (splitName (dropBlanks rest)).2) := by
  have hdrop : dropBlanks (lead ++ (paramWord ++ (gap ++ (type ++ rest)))) = paramWord ++ (gap ++ (type ++ rest)) :=
    dropBlanks_at hlead
  have hafter : after? paramWord (paramWord ++ (gap ++ (type ++ rest))) = some (gap ++ (type ++ rest)) :=
    after?_eq_some.mpr rfl
  rw [Tag.ofLine?, hdrop, ofText?_eq, hafter]
  simp [param?, blankWord?_written hgap hne htype hrest]

theorem ofLine?_returns {lead gap type rest : List Char} (hlead : AllBlank lead) (hgap : AllBlank gap) (hne : gap ≠ [])
    (htype : IsWord type) (hrest : StartsBlank rest) :
    Tag.ofLine? (lead ++ (returnWord ++ (gap ++ (type ++ rest)))) = some (.returns type (dropBlanks rest)) := by
  have hdrop : dropBlanks (lead ++ (returnWord ++ (gap ++ (type ++ rest)))) = returnWord ++ (gap ++ (type ++ rest)) :=
    dropBlanks_at hlead
  have hnone : after? paramWord (returnWord ++ (gap ++ (type ++ rest))) = none := rfl
  have hafter : after? returnWord (returnWord ++ (gap ++ (type ++ rest))) = some (gap ++ (type ++ rest)) :=
    after?_eq_some.mpr rfl
  rw [Tag.ofLine?, hdrop, ofText?_eq, hnone, hafter]
  simp [returns?, blankWord?_written hgap hne htype hrest]

theorem ofLine?_todo {lead rest : List Char} (hlead : AllBlank lead) :
    Tag.ofLine? (lead ++ (todoWord ++ rest)) = some (.todo (dropBlank (dropColon rest))) := by
  have hdrop : dropBlanks (lead ++ (todoWord ++ rest)) = todoWord ++ rest := dropBlanks_at hlead
  have hnoParam : after? paramWord (todoWord ++ rest) = none := rfl
  have hnoReturn : after? returnWord (todoWord ++ rest) = none := rfl
  have hafter : after? todoWord (todoWord ++ rest) = some rest := after?_eq_some.mpr rfl
  rw [Tag.ofLine?, hdrop, ofText?_eq, hnoParam, hnoReturn, hafter]
  simp [todo?]

/-! ### What is read -/

/-- The ways in which a line that has lost its leading blanks holds a tag. -/
theorem ofText?_cases {s : List Char} {tag : Tag} (h : Tag.ofText? s = some tag) :
    (∃ rest, s = paramWord ++ rest ∧ param? rest = some tag) ∨
    (∃ rest, s = returnWord ++ rest ∧ returns? rest = some tag) ∨
    (∃ rest, s = todoWord ++ rest ∧ tag = .todo (dropBlank (dropColon rest))) ∨
    ∃ rest, s = '@' :: rest ∧ tag = .other := by
  rw [ofText?_eq] at h
  rcases (Option.orElse_eq_some _ _ _).mp h with h | ⟨-, h⟩
  · obtain ⟨rest, hrest, h⟩ := Option.bind_eq_some_iff.mp h
    exact Or.inl ⟨rest, after?_eq_some.mp hrest, h⟩
  rcases (Option.orElse_eq_some _ _ _).mp h with h | ⟨-, h⟩
  · obtain ⟨rest, hrest, h⟩ := Option.bind_eq_some_iff.mp h
    exact Or.inr (Or.inl ⟨rest, after?_eq_some.mp hrest, h⟩)
  rcases (Option.orElse_eq_some _ _ _).mp h with h | ⟨-, h⟩
  · obtain ⟨rest, hrest, h⟩ := Option.bind_eq_some_iff.mp h
    exact Or.inr (Or.inr (Or.inl ⟨rest, after?_eq_some.mp hrest, (Option.some.inj h).symm⟩))
  · obtain ⟨rest, hrest, h⟩ := Option.map_eq_some_iff.mp h
    exact Or.inr (Or.inr (Or.inr ⟨rest, after?_eq_some.mp hrest, h.symm⟩))

/-- A line is a tag line exactly when an at sign is its first character after any blanks. -/
theorem isSome_ofLine? (line : Line) : (Tag.ofLine? line).isSome = true ↔ (dropBlanks line).head? = some '@' := by
  constructor
  · intro h
    obtain ⟨tag, htag⟩ := Option.isSome_iff_exists.mp h
    rcases ofText?_cases htag with ⟨rest, hrest, -⟩ | ⟨rest, hrest, -⟩ | ⟨rest, hrest, -⟩ | ⟨rest, hrest, -⟩ <;>
      rw [hrest] <;> rfl
  · intro h
    obtain ⟨rest, hrest⟩ := List.head?_eq_some_iff.mp h
    have hafter : after? ['@'] (dropBlanks line) = some rest := after?_eq_some.mpr hrest
    rw [Tag.ofLine?, ofText?_eq, hafter]
    simp

/-- What the pieces of a tag are like. A text starts with no blank, and where a parameter has no name its text does not start as a name does. -/
def Tag.WellFormed : Tag → Prop
  | .param type name text =>
    IsWord type ∧ ((name = [] ∧ startsName text = false) ∨ ∃ word, IsWord word ∧ name = '$' :: word) ∧
      StartsSolid text ∧ InLine text
  | .returns type text => IsWord type ∧ StartsSolid text ∧ InLine text
  | .todo text => InLine text
  | .other => True

theorem splitName_cases (s : List Char) :
    (splitName s = ([], s) ∧ startsName s = false) ∨
    ∃ word rest, IsWord word ∧ s = '$' :: word ++ rest ∧ splitName s = ('$' :: word, dropBlanks rest) := by
  by_cases hname : startsName s = true
  · right
    obtain ⟨c, later, rfl, hc⟩ : ∃ c later, s = '$' :: c :: later ∧ isBlank c = false := by
      rw [startsName.eq_def] at hname
      split at hname
      · rename_i c later
        exact ⟨c, later, rfl, by simpa using hname⟩
      · simp at hname
    obtain ⟨hsplit, hnoBlank, hblank⟩ := spanWord_spec later
    have hw : IsWord (c :: (spanWord later).1) := by
      refine ⟨by simp, fun d hd => ?_⟩
      rcases List.mem_cons.mp hd with rfl | hd
      · exact hc
      · exact hnoBlank d hd
    have hs : '$' :: c :: later = '$' :: (c :: (spanWord later).1) ++ (spanWord later).2 := by
      simp [hsplit]
    exact ⟨c :: (spanWord later).1, (spanWord later).2, hw, hs, by rw [hs, splitName_named hw hblank]⟩
  · left
    rw [Bool.not_eq_true] at hname
    exact ⟨splitName_unnamed hname, hname⟩

theorem dropBlank_suffix (s : List Char) : dropBlank s <:+ s := by
  cases s with
  | nil => exact List.suffix_refl _
  | cons c s =>
    rw [dropBlank]
    split_ifs
    · exact List.suffix_cons c s
    · exact List.suffix_refl _

theorem dropColon_suffix (s : List Char) : dropColon s <:+ s := by
  rw [dropColon.eq_def]
  split
  · exact List.suffix_cons _ _
  · exact List.suffix_refl _

theorem wellFormed_param? {s : List Char} (hs : InLine s) {tag : Tag} (h : param? s = some tag) : tag.WellFormed := by
  obtain ⟨⟨type, rest⟩, hword, rfl⟩ := Option.map_eq_some_iff.mp h
  obtain ⟨htype, hsuffix⟩ := blankWord?_spec hword
  have hrest : InLine (dropBlanks rest) := (hs.of_suffix hsuffix).of_suffix (dropBlanks_suffix rest)
  have hsolid := startsSolid_dropBlanks rest
  rcases splitName_cases (dropBlanks rest) with ⟨hsplit, hname⟩ | ⟨word, later, hw, heq, hsplit⟩
  · simp only [hsplit]
    exact ⟨htype, Or.inl ⟨rfl, hname⟩, hsolid, hrest⟩
  · rw [heq] at hrest
    simp only [hsplit]
    exact ⟨htype, Or.inr ⟨word, hw, rfl⟩, startsSolid_dropBlanks later,
      (hrest.of_suffix (List.suffix_append _ _)).of_suffix (dropBlanks_suffix later)⟩

theorem wellFormed_returns? {s : List Char} (hs : InLine s) {tag : Tag} (h : returns? s = some tag) :
    tag.WellFormed := by
  obtain ⟨⟨type, rest⟩, hword, rfl⟩ := Option.map_eq_some_iff.mp h
  obtain ⟨htype, hsuffix⟩ := blankWord?_spec hword
  exact ⟨htype, startsSolid_dropBlanks rest, (hs.of_suffix hsuffix).of_suffix (dropBlanks_suffix rest)⟩

/-- **Whatever a line says, the tag that is read from it is well formed.** -/
theorem wellFormed_of_ofLine? {line : Line} (hline : InLine line) {tag : Tag} (h : Tag.ofLine? line = some tag) :
    tag.WellFormed := by
  have hs : InLine (dropBlanks line) := hline.of_suffix (dropBlanks_suffix line)
  rcases ofText?_cases h with ⟨rest, hrest, h⟩ | ⟨rest, hrest, h⟩ | ⟨rest, hrest, rfl⟩ | ⟨rest, -, rfl⟩
  · rw [hrest] at hs
    exact wellFormed_param? (hs.of_suffix (List.suffix_append _ _)) h
  · rw [hrest] at hs
    exact wellFormed_returns? (hs.of_suffix (List.suffix_append _ _)) h
  · rw [hrest] at hs
    have hsuffix := (dropBlank_suffix (dropColon rest)).trans (dropColon_suffix rest)
    exact hs.of_suffix (hsuffix.trans (List.suffix_append _ _))
  · trivial

/-! ### Writing a tag -/

/-- A tag word and the pieces after it that are not empty, with single spaces between them. -/
def spaced (word : List Char) (pieces : List (List Char)) : Line :=
  word ++ (pieces.filter fun piece => !piece.isEmpty).flatMap fun piece => ' ' :: piece

def Tag.line : Tag → Line
  | .param type name text => spaced paramWord [type, name, text]
  | .returns type text => spaced returnWord [type, text]
  | .todo text => spaced todoWord [text]
  | .other => ['@']

theorem spaced_cons {word piece : List Char} (h : piece ≠ []) (pieces : List (List Char)) :
    spaced word (piece :: pieces) = word ++ ([' '] ++ (piece ++ spaced [] pieces)) := by
  simp [spaced, h]

theorem spaced_nil_cons_nil (word : List Char) (pieces : List (List Char)) :
    spaced word ([] :: pieces) = spaced word pieces := by
  simp [spaced]

theorem startsBlank_spaced (pieces : List (List Char)) : StartsBlank (spaced [] pieces) := by
  rw [spaced, List.nil_append]
  cases pieces.filter fun piece => !piece.isEmpty with
  | nil => simp [StartsBlank]
  | cons piece rest => exact startsBlank_cons.mpr (by decide)

theorem dropBlanks_spaced_single {text : List Char} (h : StartsSolid text) : dropBlanks (spaced [] [text]) = text := by
  by_cases hempty : text = []
  · subst hempty
    rfl
  · have heq : spaced [] [text] = [' '] ++ text := by simp [spaced, hempty]
    rw [heq, dropBlanks_append allBlank_space h]

theorem ofLine?_param_line {type name text : List Char} (h : (Tag.param type name text).WellFormed) :
    Tag.ofLine? (Tag.param type name text).line = some (.param type name text) := by
  obtain ⟨htype, hname, htext, -⟩ := h
  rw [Tag.line, spaced_cons htype.1]
  have hread := ofLine?_param allBlank_nil allBlank_space (by simp) htype (startsBlank_spaced [name, text])
  rw [List.nil_append] at hread
  rw [hread]
  rcases hname with ⟨rfl, hunnamed⟩ | ⟨word, hword, rfl⟩
  · rw [spaced_nil_cons_nil, dropBlanks_spaced_single htext, splitName_unnamed hunnamed]
  · have hsolid : StartsSolid ('$' :: word ++ spaced [] [text]) := startsSolid_cons.mpr (by decide)
    rw [spaced_cons (by simp), List.nil_append, dropBlanks_append allBlank_space hsolid,
      splitName_named hword (startsBlank_spaced _), dropBlanks_spaced_single htext]

theorem ofLine?_returns_line {type text : List Char} (h : (Tag.returns type text).WellFormed) :
    Tag.ofLine? (Tag.returns type text).line = some (.returns type text) := by
  obtain ⟨htype, htext, -⟩ := h
  rw [Tag.line, spaced_cons htype.1]
  have hread := ofLine?_returns allBlank_nil allBlank_space (by simp) htype (startsBlank_spaced [text])
  rw [List.nil_append] at hread
  rw [hread, dropBlanks_spaced_single htext]

theorem ofLine?_todo_line (text : List Char) : Tag.ofLine? (Tag.todo text).line = some (.todo text) := by
  have hline : (Tag.todo text).line = [] ++ (todoWord ++ spaced [] [text]) := by simp [Tag.line, spaced]
  rw [hline, ofLine?_todo allBlank_nil]
  by_cases hempty : text = []
  · subst hempty
    rfl
  · have heq : spaced [] [text] = ' ' :: text := by simp [spaced, hempty]
    rw [heq]
    rfl

/-- **A well formed tag is read back from the line that writes it.** -/
theorem ofLine?_line {tag : Tag} (h : tag.WellFormed) : Tag.ofLine? tag.line = some tag := by
  cases tag with
  | param type name text => exact ofLine?_param_line h
  | returns type text => exact ofLine?_returns_line h
  | todo text => exact ofLine?_todo_line text
  | other => rfl

end ApiDoc.DocComment
