import ApiDoc.Proofs.Settings.Patterns

/-!
# Written doc comments

A doc comment as an author writes it: a summary and a body of free text, blank lines and tags in any order, each on a line of its own, with any blanks where blanks may stand and any line breaks between the lines. The parts of a `Written` comment carry what makes them what they are, so that every value of the type is a comment that can be written.

* `Item.line` is the line of an item, and `Written.text` the whole comment.
* `Written.meaning` is what the comment says, read off its items, when some lines are ignored and some are notes.
* `parse_text_eq_meaning`: parsing the text gives the meaning.
-/

namespace ApiDoc.DocComment

open Text

/-! ### Pieces of a line -/

/-- Blanks inside a line. -/
structure Spacing where
  chars : List Char
  blank : AllBlank chars
  inLine : InLine chars

/-- Blanks that part two pieces of a line. -/
structure Gap extends Spacing where
  nonempty : chars ≠ []

/-- Line breaks between two lines. -/
structure LineEnd where
  chars : List Char
  isRun : IsBreakRun chars

/-- A piece that may follow another one, behind a gap of its own. -/
abbrev Follow := Option (Gap × List Char)

def Follow.chars : Follow → List Char
  | none => []
  | some (gap, piece) => gap.chars ++ piece

def Follow.piece : Follow → List Char
  | none => []
  | some (_, piece) => piece

/-- A name behind its sigil. -/
def Follow.withSigil (name : Follow) : Follow := name.map fun (gap, word) => (gap, '$' :: word)

/-- The text of a tag: it stands inside the line and starts with no blank. -/
def IsTagText (s : List Char) : Prop := InLine s ∧ StartsSolid s

instance (s : List Char) : Decidable (IsTagText s) := inferInstanceAs (Decidable (InLine s ∧ StartsSolid s))

theorem Follow.startsBlank_append (f : Follow) {rest : List Char} (hrest : StartsBlank rest) :
    StartsBlank (f.chars ++ rest) := by
  cases f with
  | none => simpa [Follow.chars] using hrest
  | some entry =>
    obtain ⟨gap, piece⟩ := entry
    rw [Follow.chars, List.append_assoc]
    exact StartsBlank.append gap.blank gap.nonempty _

theorem Follow.startsBlank (f : Follow) : StartsBlank f.chars := by
  simpa using f.startsBlank_append startsBlank_nil

theorem Follow.dropBlanks_chars {f : Follow} (h : StartsSolid f.piece) : dropBlanks f.chars = f.piece := by
  cases f with
  | none => rfl
  | some entry => exact dropBlanks_append entry.1.blank h

theorem Follow.inLine {f : Follow} (h : InLine f.piece) : InLine f.chars := by
  cases f with
  | none => exact inLine_nil
  | some entry => exact inLine_append.mpr ⟨entry.1.inLine, h⟩

/-! ### Items of the body -/

/-- An item of the body, with the blanks it is written with. -/
inductive Item where
  /-- A line of free text. -/
  | prose (line : Line) (content : IsContent line) (noTag : (dropBlanks line).head? ≠ some '@')
  /-- A blank line. -/
  | blank
  /-- A parameter: its type, its name without the sigil, and a text. -/
  | param (lead : Spacing) (gap : Gap) (type : List Char) (name text : Follow) (isType : IsWord type)
      (isName : ∀ entry ∈ name, IsWord entry.2) (isText : IsTagText text.piece)
      (unnamed : name = none → startsName text.piece = false)
  /-- A result: its type and a text. -/
  | returns (lead : Spacing) (gap : Gap) (type : List Char) (text : Follow) (isType : IsWord type)
      (isText : IsTagText text.piece)
  /-- A reminder, behind one blank, with a colon or without. -/
  | todo (lead : Spacing) (colon : Bool) (space : Char) (text : List Char) (isSpace : isBlank space = true)
      (inLine : InLine (space :: text))

/-- The line that an item is written on, without its decoration. -/
def Item.line : Item → Line
  | .prose line _ _ => line
  | .blank => []
  | .param lead gap type name text _ _ _ _ =>
    lead.chars ++ (paramWord ++ (gap.chars ++ (type ++ (name.withSigil.chars ++ text.chars))))
  | .returns lead gap type text _ _ => lead.chars ++ (returnWord ++ (gap.chars ++ (type ++ text.chars)))
  | .todo lead colon space text _ _ => lead.chars ++ (todoWord ++ ((if colon then [':'] else []) ++ space :: text))

/-- The line of the description that an item stands for. -/
def Item.prose? : Item → Option Line
  | .prose line _ _ => some line
  | .blank => some []
  | _ => none

def Item.param? : Item → Option ParamTag
  | .param _ _ type name text _ _ _ _ =>
    some ⟨String.ofList type, String.ofList name.withSigil.piece, String.ofList text.piece⟩
  | _ => none

def Item.returns? : Item → Option ReturnTag
  | .returns _ _ type text _ _ => some ⟨String.ofList type, String.ofList text.piece⟩
  | _ => none

def Item.todo? : Item → Option String
  | .todo _ _ _ text _ _ => some (String.ofList text)
  | _ => none

def Item.tag? : Item → Option Tag
  | .param _ _ type name text _ _ _ _ => some (.param type name.withSigil.piece text.piece)
  | .returns _ _ type text _ _ => some (.returns type text.piece)
  | .todo _ _ _ text _ _ => some (.todo text)
  | _ => none

theorem splitName_follow {name text : Follow} (hname : ∀ entry ∈ name, IsWord entry.2) (htext : StartsSolid text.piece)
    (hunnamed : name = none → startsName text.piece = false) :
    splitName (dropBlanks (name.withSigil.chars ++ text.chars)) = (name.withSigil.piece, text.piece) := by
  cases name with
  | none =>
    have hnone := hunnamed rfl
    change splitName (dropBlanks text.chars) = ([], text.piece)
    rw [Follow.dropBlanks_chars htext, splitName_unnamed hnone]
  | some entry =>
    obtain ⟨gap, word⟩ := entry
    have hword : IsWord word := hname _ rfl
    have hsolid : StartsSolid ('$' :: word ++ text.chars) := startsSolid_cons.mpr (by decide)
    change splitName (dropBlanks ((gap.chars ++ '$' :: word) ++ text.chars)) = ('$' :: word, text.piece)
    rw [List.append_assoc, dropBlanks_append gap.blank hsolid, splitName_named hword text.startsBlank, Follow.dropBlanks_chars htext]

theorem dropBlank_dropColon {colon : Bool} {space : Char} (hspace : isBlank space = true) (text : List Char) :
    dropBlank (dropColon ((if colon then [':'] else []) ++ space :: text)) = text := by
  have hdrop : dropBlank (space :: text) = text := by simp [dropBlank, hspace]
  have hcolon : space ≠ ':' := by
    rintro rfl
    exact absurd hspace (by decide)
  cases colon with
  | true => exact hdrop
  | false =>
    have hkeep : dropColon (space :: text) = space :: text := by
      rw [dropColon.eq_def]
      split
      · rename_i heq
        exact absurd (List.cons.inj heq).1 hcolon
      · rfl
    simp [hkeep, hdrop]

/-- **Each item is read as the tag it is, and free text as none.** -/
theorem ofLine?_item (item : Item) : Tag.ofLine? item.line = item.tag? := by
  cases item with
  | prose line content noTag =>
    have hnone := (isSome_ofLine? line).not.mpr noTag
    simpa [Item.line, Item.tag?] using hnone
  | blank => rfl
  | param lead gap type name text isType isName isText unnamed =>
    rw [Item.line, ofLine?_param lead.blank gap.blank gap.nonempty isType
      (name.withSigil.startsBlank_append text.startsBlank), splitName_follow isName isText.2 unnamed]
    rfl
  | returns lead gap type text isType isText =>
    rw [Item.line, ofLine?_returns lead.blank gap.blank gap.nonempty isType text.startsBlank,
      Follow.dropBlanks_chars isText.2]
    rfl
  | todo lead colon space text isSpace inLine =>
    rw [Item.line, ofLine?_todo lead.blank, dropBlank_dropColon isSpace]
    rfl

theorem asParam?_item (item : Item) : (Tag.ofLine? item.line).bind Tag.asParam? = item.param? := by
  rw [ofLine?_item]
  cases item <;> rfl

theorem asReturn?_item (item : Item) : (Tag.ofLine? item.line).bind Tag.asReturn? = item.returns? := by
  rw [ofLine?_item]
  cases item <;> rfl

theorem asTodo?_item (item : Item) : (Tag.ofLine? item.line).bind Tag.asTodo? = item.todo? := by
  rw [ofLine?_item]
  cases item <;> rfl

theorem prose?_item (item : Item) : item.prose? = if isTagLine item.line then none else some item.line := by
  rw [isTagLine, ofLine?_item]
  cases item <;> rfl

/-! ### Whole comments -/

/-- A line of the body: the line breaks before it, its indent and its item. -/
structure BodyLine where
  before : LineEnd
  indent : Gap
  item : Item

/-- The line of an item under its decoration. A blank line keeps the star only. -/
def Item.decorated (indent : Gap) : Item → Line
  | .blank => indent.chars ++ ['*']
  | item => indent.chars ++ '*' :: ' ' :: item.line

structure Written where
  /-- The line breaks before the summary. -/
  before : LineEnd
  indent : Gap
  summary : Line
  isContent : IsContent summary
  nonempty : summary ≠ []
  body : List BodyLine
  /-- The line breaks before the closing line. -/
  beforeClosing : LineEnd
  closingIndent : Spacing

def Written.text (w : Written) : List Char :=
  joinLines opening
    ((w.before.chars, w.indent.chars ++ '*' :: ' ' :: w.summary) ::
      w.body.map (fun b => (b.before.chars, b.item.decorated b.indent)) ++
      [(w.beforeClosing.chars, closing w.closingIndent.chars)])

/-- The items of the body whose lines are not ignored. -/
def Written.items (w : Written) (ignored : Line → Bool) : List Item :=
  (w.body.map BodyLine.item).filter fun item => !ignored item.line

/-- What a comment says: its summary, the lines of free text and the blank lines that are no notes, joined without the blank ones at both ends, the last result, and the parameters and reminders in order. -/
def Written.meaning (w : Written) (ignored note : Line → Bool) : Parsed :=
  let items := w.items ignored
  { summary := String.ofList w.summary
    description := String.ofList (unlines (trim ((items.filterMap Item.prose?).filter fun line => !note line)))
    returns := (items.filterMap Item.returns?).getLast?
    params := items.filterMap Item.param?
    todo := items.filterMap Item.todo? }

/-! ### Reading a comment -/

theorem inLine_item (item : Item) : InLine item.line := by
  cases item with
  | prose line content noTag => exact content.1
  | blank => exact inLine_nil
  | param lead gap type name text isType isName isText unnamed =>
    have hsigil : InLine name.withSigil.piece := by
      cases name with
      | none => exact inLine_nil
      | some entry => exact inLine_cons.mpr ⟨by decide, (isName entry rfl).2.inLine⟩
    have hword : InLine paramWord := by decide
    simp [Item.line, lead.inLine, gap.inLine, isType.2.inLine, Follow.inLine hsigil, Follow.inLine isText.1, hword]
  | returns lead gap type text isType isText =>
    have hword : InLine returnWord := by decide
    simp [Item.line, lead.inLine, gap.inLine, isType.2.inLine, Follow.inLine isText.1, hword]
  | todo lead colon space text isSpace inLine =>
    have hword : InLine todoWord := by decide
    have hcolon : InLine (if colon then [':'] else []) := by cases colon <;> decide
    simp only [Item.line, inLine_append]
    exact ⟨lead.inLine, hword, hcolon, inLine⟩

theorem isContent_item (item : Item) : IsContent item.line := by
  refine ⟨inLine_item item, ?_⟩
  by_cases htag : isTagLine item.line = true
  · exact isBareStar_of_isTagLine htag
  · -- an item that is no tag is free text or a blank line
    have hprose := prose?_item item
    rw [if_neg htag] at hprose
    cases item with
    | prose line content noTag => exact content.2
    | blank => exact isBareStar_nil
    | _ => simp [Item.prose?] at hprose

theorem clearBareStar_decorated (indent : Gap) (item : Item) :
    clearBareStar (undecorate (item.decorated indent)) = item.line := by
  by_cases hblank : item = .blank
  · subst hblank
    rw [Item.decorated, undecorate_star indent.blank, clearBareStar,
      if_pos (isBareStar_star indent.blank indent.nonempty), Item.line]
  · have hdecorated : item.decorated indent = indent.chars ++ '*' :: ' ' :: item.line := by
      cases item <;> simp_all [Item.decorated]
    rw [hdecorated, undecorate_decorated indent.blank indent.nonempty, clearBareStar_of_isContent (isContent_item item)]

theorem inLine_decorated (indent : Gap) (item : Item) : InLine (item.decorated indent) := by
  have hstar : isBreak '*' = false := by decide
  have hspace : isBreak ' ' = false := by decide
  have hline := inLine_item item
  cases item <;> simp_all [Item.decorated, indent.inLine]

theorem decorated_ne_nil (indent : Gap) (item : Item) : item.decorated indent ≠ [] := by
  cases item <;> simp [Item.decorated]

theorem content_text (w : Written) : content w.text = w.summary :: w.body.map fun b => b.item.line := by
  have hstar : isBreak '*' = false := by decide
  have hspace : isBreak ' ' = false := by decide
  rw [Written.text, content_joinLines (by decide)]
  · rw [List.map_cons, undecorate_decorated w.indent.blank w.indent.nonempty, clearBareStar_of_isContent w.isContent,
      List.map_map]
    refine congrArg (List.cons w.summary) (List.map_congr_left fun b _ => ?_)
    exact clearBareStar_decorated b.indent b.item
  · intro entry hentry
    rcases List.mem_cons.mp hentry with rfl | hentry
    · exact ⟨w.before.isRun, by simp [w.indent.inLine, w.isContent.1, hstar, hspace], by simp⟩
    · obtain ⟨b, -, rfl⟩ := List.mem_map.mp hentry
      exact ⟨b.before.isRun, inLine_decorated b.indent b.item, decorated_ne_nil b.indent b.item⟩
  · exact ⟨w.beforeClosing.isRun, inLine_append.mpr ⟨w.closingIndent.inLine, by decide⟩, by simp [closing]⟩

theorem filter_lines_eq_prose (note : Line → Bool) (items : List Item) :
    (items.map Item.line).filter (fun line => !isTagLine line && !note line) =
      (items.filterMap Item.prose?).filter fun line => !note line := by
  induction items with
  | nil => rfl
  | cons item items ih =>
    have hprose := prose?_item item
    by_cases htag : isTagLine item.line = true
    · rw [if_pos htag] at hprose
      simp [htag, hprose, ih]
    · rw [if_neg htag] at hprose
      rw [List.map_cons, List.filterMap_cons_some hprose, List.filter_cons, List.filter_cons, ih]
      simp [htag]

/-- **Reading undoes writing.** Whatever blanks, line breaks and spellings a comment is written with, parsing gives back its summary and what its items say. Items that an ignored-line pattern matches, and free text that a note pattern matches, are left out. -/
theorem parse_text_eq_meaning {ignored notes : List String} {is ns : List Pattern.Regex}
    (hignored : compileAll ignored = .ok is) (hnotes : compileAll notes = .ok ns) (w : Written)
    (hsummary : matchesAny is w.summary = false) :
    parse ignored notes .extract (String.ofList w.text) = .ok (some (w.meaning (matchesAny is) (matchesAny ns))) := by
  have hdoc : isDocComment (String.ofList w.text).toList = true := by
    rw [String.toList_ofList, Written.text, joinLines]
    exact isDocComment_opening _
  have hlines : (w.body.map fun b => b.item.line).filter (fun line => !matchesAny is line) =
      (w.items (matchesAny is)).map Item.line := by
    rw [Written.items, List.filter_map, List.filter_map, List.map_map]
    rfl
  rw [parse_extract hignored hnotes hdoc, String.toList_ofList, content_text,
    parseLines_extract (relevant_cons w.nonempty hsummary _), hlines, filter_lines_eq_prose]
  simp only [List.filterMap_map, Function.comp_def, asParam?_item, asReturn?_item, asTodo?_item]
  rfl

/-- A tab, a no-break space and a space, as a gap. -/
def tabGap : Gap := ⟨⟨['\t', '\u00a0', ' '], by decide, by decide⟩, by simp⟩

def spaceGap : Gap := ⟨⟨[' '], by decide, by decide⟩, by simp⟩

/-- Two line breaks in a row, which part two lines as one does. -/
def doubledEnd : LineEnd := ⟨['\r', '\n', '\n'], by simp, by simp [isBreak]⟩

/-- A comment with a directive, a note, a parameter without a name whose text starts with a lone sigil, and tags between lines of free text. -/
def sampleComment : Written where
  before := doubledEnd
  indent := tabGap
  summary := "@ Adds two numbers.".toList
  isContent := ⟨by decide, by decide⟩
  nonempty := by decide
  body := [
    ⟨doubledEnd, spaceGap, .blank⟩,
    ⟨doubledEnd, spaceGap, .prose "#pw-internal".toList ⟨by decide, by decide⟩ (by decide)⟩,
    ⟨doubledEnd, spaceGap, .prose "  * a list".toList ⟨by decide, by decide⟩ (by decide)⟩,
    ⟨doubledEnd, tabGap, .param tabGap.toSpacing tabGap "int".toList (some (spaceGap, "a".toList))
      (some (tabGap, "First ".toList)) (by decide) (by decide) (by decide) (by decide)⟩,
    ⟨doubledEnd, spaceGap, .prose "FIXED rounding".toList ⟨by decide, by decide⟩ (by decide)⟩,
    ⟨doubledEnd, spaceGap, .param spaceGap.toSpacing tabGap "array|null".toList none
      (some (tabGap, "$ signs".toList)) (by decide) (by simp) (by decide) (by decide)⟩,
    ⟨doubledEnd, spaceGap, .returns spaceGap.toSpacing tabGap "$this".toList none (by decide) (by decide)⟩,
    ⟨doubledEnd, spaceGap, .blank⟩,
    ⟨doubledEnd, spaceGap, .todo tabGap.toSpacing true '\t' " round".toList (by decide) (by decide)⟩,
    ⟨doubledEnd, spaceGap, .prose "The end.".toList ⟨by decide, by decide⟩ (by decide)⟩,
    ⟨doubledEnd, spaceGap, .blank⟩]
  beforeClosing := doubledEnd
  closingIndent := spaceGap.toSpacing

theorem parse_sampleComment :
    parse ["#pw-"] ["FIXED\\s"] .extract (String.ofList sampleComment.text) =
      .ok (some
        { summary := "@ Adds two numbers."
          description := "  * a list\n\nThe end."
          returns := some ⟨"$this", ""⟩
          params := [⟨"int", "$a", "First "⟩, ⟨"array|null", "", "$ signs"⟩]
          todo := [" round"] }) := by
  have hsummary : matchesAny [Pattern.directive] sampleComment.summary = false := by cbv
  have hmeaning : sampleComment.meaning (matchesAny [Pattern.directive]) (matchesAny [Pattern.fixedNote]) =
      { summary := "@ Adds two numbers."
        description := "  * a list\n\nThe end."
        returns := some ⟨"$this", ""⟩
        params := [⟨"int", "$a", "First "⟩, ⟨"array|null", "", "$ signs"⟩]
        todo := [" round"] } := by cbv
  rw [parse_text_eq_meaning Pattern.compileAll_directive Pattern.compileAll_fixedNote sampleComment hsummary, hmeaning]

end ApiDoc.DocComment
