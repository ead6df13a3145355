import ApiDoc.Proofs.DocComment.NormalForm

/-!
# Tags by their names

The name of a tag is the run of ASCII letters and digits after its at sign. Parameters come from lines whose tag is named `param`, and a result from one named `return`, because both words have to be followed by a blank. The word of a reminder need not be, so reminders come from every line whose tag name begins with `todo`; a line with any other tag adds nothing.

* `tagName?_of_param`, `tagName?_of_returns` and `todo_prefix_of_todo` give the names of the tags that are read, and `ofLine?_of_todo_prefix` and `ofLine?_of_foreign` read the lines of a name.
* `TagsFrom` says which lines the tags of a parsed comment come from.
* `tags_by_name` puts this together.
-/

namespace ApiDoc.DocComment

open Text

/-- The name of the tag on a line, if it is a tag line. -/
def tagName? (line : Line) : Option (List Char) :=
  match dropBlanks line with
  | '@' :: rest => some (rest.takeWhile Char.isAlphanum)
  | _ => none

/-! ### Names of the tags that are read -/

theorem toNat_of_isAlphanum {c : Char} (h : c.isAlphanum = true) :
    ((65 ≤ c.toNat ∧ c.toNat ≤ 90) ∨ (97 ≤ c.toNat ∧ c.toNat ≤ 122)) ∨ (48 ≤ c.toNat ∧ c.toNat ≤ 57) := by
  change ((decide ('A'.val ≤ c.val ∧ c.val ≤ 'Z'.val) || (decide ('a'.val ≤ c.val) && decide (c.val ≤ 'z'.val))) ||
    (decide ('0'.val ≤ c.val) && decide (c.val ≤ '9'.val))) = true at h
  simp only [Bool.or_eq_true, Bool.and_eq_true, decide_eq_true_eq, UInt32.le_iff_toNat_le] at h
  exact h

theorem isAlphanum_of_isBlank {c : Char} (h : isBlank c = true) : c.isAlphanum = false := by
  rw [← Bool.not_eq_true]
  intro hword
  have hword := toNat_of_isAlphanum hword
  simp only [isBlank, Bool.or_eq_true, Bool.and_eq_true, decide_eq_true_eq, beq_iff_eq] at h
  omega

theorem tagName?_eq {line rest : List Char} (h : dropBlanks line = '@' :: rest) :
    tagName? line = some (rest.takeWhile Char.isAlphanum) := by
  simp only [tagName?, h]

theorem takeWhile_word {word rest : List Char} (hword : word.all Char.isAlphanum = true) (hrest : StartsBlank rest) :
    (word ++ rest).takeWhile Char.isAlphanum = word := by
  rw [List.takeWhile_append_of_pos (List.all_eq_true.mp hword)]
  cases rest with
  | nil => simp
  | cons c rest => simp [isAlphanum_of_isBlank (startsBlank_cons.mp hrest)]

theorem startsBlank_of_blankWord? {s : List Char} {found : List Char × List Char} (h : blankWord? s = some found) :
    StartsBlank s := by
  obtain ⟨hparts, hblank, -⟩ := spanBlanks_spec s
  rw [blankWord?] at h
  split at h
  · rename_i c blanks rest hspan
    rw [hspan] at hparts hblank
    rw [← hparts]
    exact startsBlank_cons.mpr (hblank c List.mem_cons_self)
  · cases h

theorem tagName?_of_param {line : Line} {type name text : List Char} (h : Tag.ofLine? line = some (.param type name text)) :
    tagName? line = some "param".toList := by
  rcases ofText?_cases h with ⟨rest, hline, hread⟩ | ⟨rest, -, hread⟩ | ⟨rest, -, hread⟩ | ⟨rest, -, hread⟩
  · obtain ⟨found, hfound, -⟩ := Option.map_eq_some_iff.mp hread
    rw [tagName?_eq hline]
    exact congrArg some (takeWhile_word (by decide +kernel) (startsBlank_of_blankWord? hfound))
  · obtain ⟨found, -, htag⟩ := Option.map_eq_some_iff.mp hread
    cases htag
  · cases hread
  · cases hread

theorem tagName?_of_returns {line : Line} {type text : List Char} (h : Tag.ofLine? line = some (.returns type text)) :
    tagName? line = some "return".toList := by
  rcases ofText?_cases h with ⟨rest, -, hread⟩ | ⟨rest, hline, hread⟩ | ⟨rest, -, hread⟩ | ⟨rest, -, hread⟩
  · obtain ⟨found, -, htag⟩ := Option.map_eq_some_iff.mp hread
    cases htag
  · obtain ⟨found, hfound, -⟩ := Option.map_eq_some_iff.mp hread
    rw [tagName?_eq hline]
    exact congrArg some (takeWhile_word (by decide +kernel) (startsBlank_of_blankWord? hfound))
  · cases hread
  · cases hread

theorem todo_prefix_of_todo {line : Line} {text : List Char} (h : Tag.ofLine? line = some (.todo text)) :
    ∃ name, tagName? line = some name ∧ "todo".toList <+: name := by
  rcases ofText?_cases h with ⟨rest, -, hread⟩ | ⟨rest, -, hread⟩ | ⟨rest, hline, -⟩ | ⟨rest, -, hread⟩
  · obtain ⟨found, -, htag⟩ := Option.map_eq_some_iff.mp hread
    cases htag
  · obtain ⟨found, -, htag⟩ := Option.map_eq_some_iff.mp hread
    cases htag
  · refine ⟨_, tagName?_eq hline, rest.takeWhile Char.isAlphanum, ?_⟩
    have hword : "todo".toList.all Char.isAlphanum = true := by decide +kernel
    exact (List.takeWhile_append_of_pos (List.all_eq_true.mp hword)).symm
  · cases hread

/-- A line whose tag name begins with `todo` is a reminder, however the name goes on. -/
theorem ofLine?_of_todo_prefix {line : Line} {name : List Char} (hname : tagName? line = some name)
    (htodo : "todo".toList <+: name) : ∃ text, Tag.ofLine? line = some (.todo text) := by
  rw [tagName?] at hname
  split at hname
  · rename_i rest hline
    obtain ⟨more, hmore⟩ := htodo.trans (Option.some.inj hname ▸ List.takeWhile_prefix _)
    have hread := @ofLine?_todo [] more allBlank_nil
    have hdrop : dropBlanks line = [] ++ (todoWord ++ more) := by
      rw [hline, ← hmore]
      rfl
    have hsame : Tag.ofLine? line = Tag.ofLine? ([] ++ (todoWord ++ more)) := by
      rw [Tag.ofLine?, Tag.ofLine?, ← hdrop, dropBlanks_of_startsSolid (startsSolid_dropBlanks line)]
    exact ⟨_, hsame.trans hread⟩
  · cases hname

/-- The name of a tag that is neither of the first two and does not begin with the third. -/
def IsForeign (name : List Char) : Prop :=
  name ≠ "param".toList ∧ name ≠ "return".toList ∧ ¬ "todo".toList <+: name

/-- A line with a foreign tag is recognised only to be left out. -/
theorem ofLine?_of_foreign {line : Line} {name : List Char} (hname : tagName? line = some name) (h : IsForeign name) :
    Tag.ofLine? line = some .other := by
  obtain ⟨hparam, hreturn, htodo⟩ := h
  have hsome : (Tag.ofLine? line).isSome = true := by
    rw [isSome_ofLine?]
    rw [tagName?] at hname
    split at hname
    · rename_i rest hline
      rw [hline]
      rfl
    · cases hname
  obtain ⟨tag, htag⟩ := Option.isSome_iff_exists.mp hsome
  cases tag with
  | param type text name => exact absurd (Option.some.inj (hname.symm.trans (tagName?_of_param htag))) hparam
  | returns type text => exact absurd (Option.some.inj (hname.symm.trans (tagName?_of_returns htag))) hreturn
  | todo text =>
    obtain ⟨name', hname', hprefix⟩ := todo_prefix_of_todo htag
    exact absurd (Option.some.inj (hname'.symm.trans hname) ▸ hprefix) htodo
  | other => exact htag

/-! ### Where tags come from -/

/-- The lines behind the summary, as far as they count. -/
def bodyOf (ignored : Line → Bool) (content : List Line) : List Line := (relevant ignored content).tail

def paramOf? (line : Line) : Option ParamTag := (Tag.ofLine? line).bind Tag.asParam?

def returnOf? (line : Line) : Option ReturnTag := (Tag.ofLine? line).bind Tag.asReturn?

def todoOf? (line : Line) : Option String := (Tag.ofLine? line).bind Tag.asTodo?

/-- The tags of a parsed comment come from the lines of its body: each parameter and each reminder from a line of its own, in order. The tag on the line is named `param` for a parameter and `return` for the result, and has one of some names for a reminder. -/
structure TagsFrom (IsTodoName : List Char → Prop) (body : List Line) (p : Parsed) : Prop where
  params : ∃ lines : List Line, lines.Sublist body ∧ (∀ line ∈ lines, tagName? line = some "param".toList) ∧
    lines.map paramOf? = p.params.map some
  returns : ∀ r ∈ p.returns, ∃ line ∈ body, tagName? line = some "return".toList ∧ returnOf? line = some r
  todo : ∃ lines : List Line, lines.Sublist body ∧ (∀ line ∈ lines, ∃ name, tagName? line = some name ∧ IsTodoName name) ∧
    lines.map todoOf? = p.todo.map some

theorem tagName?_of_paramOf? {line : Line} (h : (paramOf? line).isSome = true) : tagName? line = some "param".toList := by
  obtain ⟨_, hread⟩ := Option.isSome_iff_exists.mp h
  obtain ⟨tag, htag, hread⟩ := Option.bind_eq_some_iff.mp hread
  cases tag with
  | param type name text => exact tagName?_of_param htag
  | _ => cases hread

theorem tagName?_of_returnOf? {line : Line} {r : ReturnTag} (h : returnOf? line = some r) :
    tagName? line = some "return".toList := by
  obtain ⟨tag, htag, hread⟩ := Option.bind_eq_some_iff.mp h
  cases tag with
  | returns type text => exact tagName?_of_returns htag
  | _ => cases hread

theorem isSome_todoOf? {line : Line} :
    (todoOf? line).isSome = true ↔ ∃ name, tagName? line = some name ∧ "todo".toList <+: name := by
  constructor
  · intro h
    obtain ⟨_, hread⟩ := Option.isSome_iff_exists.mp h
    obtain ⟨tag, htag, hread⟩ := Option.bind_eq_some_iff.mp hread
    cases tag with
    | todo text => exact todo_prefix_of_todo htag
    | _ => cases hread
  · rintro ⟨name, hname, hprefix⟩
    obtain ⟨text, htag⟩ := ofLine?_of_todo_prefix hname hprefix
    rw [todoOf?, htag]
    rfl

theorem map_filter_isSome {α β : Type} (f : α → Option β) (xs : List α) :
    (xs.filter fun x => (f x).isSome).map f = (xs.filterMap f).map some := by
  induction xs with
  | nil => rfl
  | cons x xs ih =>
    cases hx : f x with
    | none => rw [List.filter_cons_of_neg (by simp [hx]), List.filterMap_cons_none hx, ih]
    | some y =>
      rw [List.filter_cons_of_pos (by simp [hx]), List.filterMap_cons_some hx, List.map_cons, List.map_cons, hx, ih]

section
variable (ignored note : Line → Bool) (content : List Line)

theorem tags_extract :
    (parseLines ignored note .extract content).params = (bodyOf ignored content).filterMap paramOf? ∧
      (parseLines ignored note .extract content).returns =
        ((bodyOf ignored content).filterMap returnOf?).getLast? ∧
      (parseLines ignored note .extract content).todo = (bodyOf ignored content).filterMap todoOf? := by
  simp only [parseLines, bodyOf, List.filterMap_filterMap]
  exact ⟨rfl, rfl, rfl⟩

theorem tagsFrom_extract :
    TagsFrom (fun name => "todo".toList <+: name) (bodyOf ignored content) (parseLines ignored note .extract content) := by
  obtain ⟨hparams, hreturns, htodo⟩ := tags_extract ignored note content
  refine ⟨?_, ?_, ?_⟩
  · rw [hparams]
    exact ⟨_, List.filter_sublist, fun line hline => tagName?_of_paramOf? (List.mem_filter.mp hline).2,
      map_filter_isSome paramOf? _⟩
  · intro r hr
    rw [hreturns] at hr
    obtain ⟨line, hline, hread⟩ := List.mem_filterMap.mp (List.mem_of_getLast? hr)
    exact ⟨line, hline, tagName?_of_returnOf? hread, hread⟩
  · rw [htodo]
    exact ⟨_, List.filter_sublist, fun line hline => isSome_todoOf?.mp (List.mem_filter.mp hline).2,
      map_filter_isSome todoOf? _⟩

/-- Reminders come from lines with the name `todo` exactly if no tag name of the body goes on behind it. -/
theorem tagsFrom_todo_iff :
    TagsFrom (fun name => name = "todo".toList) (bodyOf ignored content) (parseLines ignored note .extract content) ↔
      ∀ line ∈ bodyOf ignored content, ∀ name, tagName? line = some name → "todo".toList <+: name →
        name = "todo".toList := by
  have hall := tagsFrom_extract ignored note content
  constructor
  · rintro ⟨-, -, lines, hlines, hnames, hread⟩ line hline name hname hprefix
    -- the lines of the reminders are all the lines that are read as reminders, for there are as many of them
    have hsome : ∀ l ∈ lines, (todoOf? l).isSome = true := by
      intro l hl
      have hmem : todoOf? l ∈ lines.map todoOf? := List.mem_map_of_mem hl
      rw [hread] at hmem
      obtain ⟨_, -, h⟩ := List.mem_map.mp hmem
      rw [← h, Option.isSome_some]
    have hsublist := hlines.filter fun l => (todoOf? l).isSome
    rw [List.filter_eq_self.mpr hsome] at hsublist
    have hlength : lines.length = ((bodyOf ignored content).filter fun l => (todoOf? l).isSome).length := by
      have h := congrArg List.length (hread.trans (congrArg _ (tags_extract ignored note content).2.2))
      rwa [← map_filter_isSome, List.length_map, List.length_map] at h
    have hmem : line ∈ lines := by
      rw [hsublist.eq_of_length hlength]
      exact List.mem_filter.mpr ⟨hline, isSome_todoOf?.mpr ⟨name, hname, hprefix⟩⟩
    obtain ⟨name', hname', htodo⟩ := hnames line hmem
    exact (Option.some.inj (hname.symm.trans hname')).trans htodo
  · intro h
    obtain ⟨lines, hlines, hnames, hread⟩ := hall.todo
    refine ⟨hall.params, hall.returns, lines, hlines, fun line hline => ?_, hread⟩
    obtain ⟨name, hname, hprefix⟩ := hnames line hline
    exact ⟨name, hname, h line (hlines.subset hline) name hname hprefix⟩

end

/-! ### Leaving a line out -/

section
variable {ignored note : Line → Bool}

theorem relevant_append {front : List Line} (h : relevant ignored front ≠ []) (back : List Line) :
    relevant ignored (front ++ back) = relevant ignored front ++ back.filter fun line => !ignored line := by
  rw [relevant, List.filter_append, trimFront, List.dropWhile_append, if_neg]
  · rfl
  · rwa [List.isEmpty_iff]

/-- A line behind the summary that is recognised only to be left out may as well not be there. -/
theorem parseLines_without {front : List Line} (h : relevant ignored front ≠ []) {line : Line}
    (hline : Tag.ofLine? line = some .other) (back : List Line) :
    parseLines ignored note .extract (front ++ line :: back) = parseLines ignored note .extract (front ++ back) := by
  obtain ⟨summary, rest, hfront⟩ := List.exists_cons_of_ne_nil h
  have hbefore := relevant_append h (line :: back)
  have hafter := relevant_append h back
  rw [hfront, List.cons_append] at hbefore hafter
  rw [parseLines_extract hbefore, parseLines_extract hafter]
  rw [List.filter_cons]
  split_ifs
  · simp [List.filterMap_append, hline, Tag.asParam?, Tag.asReturn?, Tag.asTodo?, isTagLine]
  · rfl

end

/-! ### Tags by their names -/

/-- **The tags are a closed set of names, up to how `todo` goes on.** The tags of a comment come from lines of its body, each parameter and each reminder from its own: parameters from tags named `param`, the result from one named `return`, and reminders from tags whose name begins with `todo`. They all come from tags named `todo` if and only if no tag name in the body goes on behind that word. A line with any other tag may as well be missing. -/
theorem tags_by_name {ignored notes : List String} {is ns : List Pattern.Regex} (hignored : compileAll ignored = .ok is)
    (hnotes : compileAll notes = .ok ns) {raw : String} (hraw : isDocComment raw.toList = true) :
    ∃ p, parse ignored notes .extract raw = .ok (some p) ∧
      TagsFrom (fun name => "todo".toList <+: name) (bodyOf (matchesAny is) (content raw.toList)) p ∧
      (TagsFrom (fun name => name = "todo".toList) (bodyOf (matchesAny is) (content raw.toList)) p ↔
        ∀ line ∈ bodyOf (matchesAny is) (content raw.toList), ∀ name, tagName? line = some name →
          "todo".toList <+: name → name = "todo".toList) ∧
      ∀ front line back name, content raw.toList = front ++ line :: back → relevant (matchesAny is) front ≠ [] →
        tagName? line = some name → IsForeign name →
        p = parseLines (matchesAny is) (matchesAny ns) .extract (front ++ back) := by
  refine ⟨_, parse_extract hignored hnotes hraw, tagsFrom_extract _ _ _, tagsFrom_todo_iff _ _ _, ?_⟩
  intro front line back name hcontent hfront hname hforeign
  rw [hcontent, parseLines_without hfront (ofLine?_of_foreign hname hforeign)]

/-- A comment with a tag of each kind and one that is foreign. -/
def taggedComment : String := "/**\n * Sum.\n * @param int $a\n * @throws E\n * @return int\n * @todo: x\n */"

theorem tags_taggedComment :
    ∃ p, parse ["#pw-"] ["FIXED\\s"] .extract taggedComment = .ok (some p) ∧
      p.params.length = 1 ∧ p.returns.isSome = true ∧ p.todo = ["x"] ∧
      TagsFrom (fun name => name = "todo".toList) (bodyOf (matchesAny [Pattern.directive]) (content taggedComment.toList)) p ∧
      p = parseLines (matchesAny [Pattern.directive]) (matchesAny [Pattern.fixedNote]) .extract
        ["Sum.".toList, "@param int $a".toList, "@return int".toList, "@todo: x".toList] := by
  have hp : parse ["#pw-"] ["FIXED\\s"] .extract taggedComment =
      .ok (some ⟨"Sum.", "", some ⟨"int", ""⟩, [⟨"int", "$a", ""⟩], ["x"]⟩) := by decide +kernel
  have hraw : isDocComment taggedComment.toList = true := by decide +kernel
  obtain ⟨p, hparse, -, hexact, hwithout⟩ := tags_by_name Pattern.compileAll_directive Pattern.compileAll_fixedNote hraw
  obtain rfl : _ = p := Option.some.inj (Except.ok.inj (hp.symm.trans hparse))
  refine ⟨_, hp, rfl, rfl, rfl, hexact.mpr ?_, ?_⟩
  · change ∀ line ∈ _, ∀ name ∈ tagName? line, _
    decide +kernel
  · exact hwithout ["Sum.".toList, "@param int $a".toList] "@throws E".toList
      ["@return int".toList, "@todo: x".toList] "throws".toList (by decide +kernel) (by decide +kernel) (by decide +kernel)
      ⟨by decide, by decide, by decide⟩

/-- A comment with a tag whose name goes on behind `todo`. -/
def todolistComment : String := "/**\n * Sum.\n * @todolist x\n */"

theorem not_always_named_todo :
    ¬ ∀ raw p, isDocComment raw.toList = true → parse ["#pw-"] ["FIXED\\s"] .extract raw = .ok (some p) →
      TagsFrom (fun name => name = "todo".toList) (bodyOf (matchesAny [Pattern.directive]) (content raw.toList)) p := by
  intro hall
  have hraw : isDocComment todolistComment.toList = true := by decide +kernel
  have hbody : bodyOf (matchesAny [Pattern.directive]) (content todolistComment.toList) = ["@todolist x".toList] := by
    decide +kernel
  have hparse := parse_extract Pattern.compileAll_directive Pattern.compileAll_fixedNote hraw
  have hnames := (tagsFrom_todo_iff _ _ _).mp (hall todolistComment _ hraw hparse)
  have hname : "todolist".toList = "todo".toList := by
    refine hnames "@todolist x".toList (hbody ▸ List.mem_singleton_self _) _ ?_ ?_
    · decide +kernel
    · decide
  exact absurd hname (by decide)

end ApiDoc.DocComment
