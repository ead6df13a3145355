import ApiDoc.Proofs.Settings.Patterns
import Mathlib.Data.List.Basic

/-!
# Parsed comments are normal forms

A parsed comment can be written as a doc comment again: its summary, a blank line, the lines of its description and one line for each tag. Parsing that comment gives the parsed comment back, so tags are extracted once and for all.

* `NormalForm` collects what holds of everything that is parsed, whatever the comment looked like (`normalForm_extract`, `normalForm_plain`).
* `parseLines_extract_content` and `parseLines_plain_content` parse the lines of a normal form.
* `parse_render` puts both together.
-/

namespace ApiDoc.DocComment

open Text

/-! ### Writing a parsed comment -/

/-- The tags of a parsed comment, in the order in which they are written. -/
def Parsed.tags (p : Parsed) : List Tag :=
  p.params.map (fun t => .param t.type.toList t.name.toList t.text.toList) ++
    p.returns.toList.map (fun t => .returns t.type.toList t.text.toList) ++ p.todo.map fun text => .todo text.toList

/-- The lines of content that write a parsed comment. -/
def Parsed.content (p : Parsed) : List Line :=
  p.summary.toList :: [] :: p.description.toList.splitOn '\n' ++ p.tags.map Tag.line

def render (p : Parsed) : String := String.ofList (layout [' '] p.content)

theorem asParam?_tags (p : Parsed) : p.tags.filterMap Tag.asParam? = p.params := by
  simp [Parsed.tags, List.filterMap_map, List.filterMap_none, Function.comp_def, Tag.asParam?]

theorem asReturn?_tags (p : Parsed) : (p.tags.filterMap Tag.asReturn?).getLast? = p.returns := by
  cases h : p.returns <;> simp [Parsed.tags, List.filterMap_map, List.filterMap_none, Function.comp_def, Tag.asReturn?, h]

theorem asTodo?_tags (p : Parsed) : p.tags.filterMap Tag.asTodo? = p.todo := by
  simp [Parsed.tags, List.filterMap_map, List.filterMap_none, Function.comp_def, Tag.asTodo?]

/-! ### What holds of everything that is parsed -/

/-- A line that stays in a description: content that is neither a tag nor ignored nor a note. -/
structure StaysInBody (ignored note : Line → Bool) (line : Line) : Prop where
  content : IsContent line
  noTag : isTagLine line = false
  kept : ignored line = false
  noNote : note line = false

/-- What holds of a parsed comment whose description has the lines `body`. -/
structure NormalForm (ignored note : Line → Bool) (p : Parsed) (body : List Line) : Prop where
  summary_content : IsContent p.summary.toList
  summary_kept : p.summary.toList ≠ [] → ignored p.summary.toList = false
  /-- A comment without a summary holds nothing else. -/
  summary_first : p.summary.toList = [] → body = [] ∧ p.tags = []
  description_eq : p.description = String.ofList (unlines body)
  body_trimmed : Trimmed body
  body_stays : ∀ line ∈ body, StaysInBody ignored note line
  tags_wellFormed : ∀ tag ∈ p.tags, tag.WellFormed

theorem mem_of_mem_relevant {ignored : Line → Bool} {content : List Line} {line : Line}
    (h : line ∈ relevant ignored content) : line ∈ content ∧ ignored line = false := by
  have hmem := (trimFront_suffix _).subset h
  simpa using hmem

theorem summary_relevant (ignored : Line → Bool) {content : List Line} (hcontent : ∀ line ∈ content, IsContent line) :
    IsContent ((relevant ignored content).headD []) ∧
    ((relevant ignored content).headD [] ≠ [] → ignored ((relevant ignored content).headD []) = false) ∧
    ((relevant ignored content).headD [] = [] → (relevant ignored content).tail = []) := by
  cases h : relevant ignored content with
  | nil => exact ⟨isContent_nil, by simp, by simp⟩
  | cons summary rest =>
    have hmem : summary ∈ relevant ignored content := h ▸ List.mem_cons_self
    obtain ⟨hin, hkept⟩ := mem_of_mem_relevant hmem
    have hne : summary ≠ [] := by
      refine head_trimFront (content.filter fun line => !ignored line) summary ?_
      rw [← relevant, h]
      rfl
    exact ⟨hcontent summary hin, fun _ => hkept, fun hempty => absurd hempty hne⟩

theorem staysInBody_trim {ignored note : Line → Bool} {content : List Line} (hcontent : ∀ line ∈ content, IsContent line)
    {line : Line}
    (h : line ∈ trim ((relevant ignored content).tail.filter fun line => !isTagLine line && !note line)) :
    StaysInBody ignored note line := by
  obtain ⟨htail, hkeep⟩ := List.mem_filter.mp ((trim_sublist _).subset h)
  obtain ⟨hin, hkept⟩ := mem_of_mem_relevant (List.mem_of_mem_tail htail)
  simp only [Bool.and_eq_true, Bool.not_eq_true'] at hkeep
  exact ⟨hcontent line hin, hkeep.1, hkept, hkeep.2⟩

theorem mem_tags_extract {ignored note : Line → Bool} {content : List Line} {tag : Tag}
    (h : tag ∈ (parseLines ignored note .extract content).tags) :
    tag ∈ (relevant ignored content).tail.filterMap Tag.ofLine? := by
  simp only [Parsed.tags, parseLines, List.mem_append, List.mem_map, Option.mem_toList] at h
  rcases h with (⟨t, ht, rfl⟩ | ⟨t, ht, rfl⟩) | ⟨text, ht, rfl⟩
  · obtain ⟨read, hread, heq⟩ := List.mem_filterMap.mp ht
    cases read <;> simp [Tag.asParam?] at heq
    subst heq
    simpa using hread
  · obtain ⟨read, hread, heq⟩ := List.mem_filterMap.mp (List.mem_of_getLast? ht)
    cases read <;> simp [Tag.asReturn?] at heq
    subst heq
    simpa using hread
  · obtain ⟨read, hread, heq⟩ := List.mem_filterMap.mp ht
    cases read <;> simp [Tag.asTodo?] at heq
    subst heq
    simpa using hread

/-- **What is extracted is a normal form.** -/
theorem normalForm_extract (ignored note : Line → Bool) {content : List Line}
    (hcontent : ∀ line ∈ content, IsContent line) :
    NormalForm ignored note (parseLines ignored note .extract content)
      (trim ((relevant ignored content).tail.filter fun line => !isTagLine line && !note line)) := by
  have hsummary : (parseLines ignored note .extract content).summary.toList = (relevant ignored content).headD [] := by
    simp [parseLines]
  obtain ⟨hin, hkept, hfirst⟩ := summary_relevant ignored hcontent
  refine ⟨hsummary ▸ hin, hsummary ▸ hkept, ?_, rfl, trim_trimmed _, fun line => staysInBody_trim hcontent, ?_⟩
  · intro hempty
    have htail := hfirst (hsummary ▸ hempty)
    refine ⟨by rw [htail]; rfl, List.eq_nil_iff_forall_not_mem.mpr fun tag htag => ?_⟩
    have hread := mem_tags_extract htag
    simp [htail] at hread
  · intro tag htag
    obtain ⟨line, hline, hread⟩ := List.mem_filterMap.mp (mem_tags_extract htag)
    exact wellFormed_of_ofLine? (hcontent line (mem_of_mem_relevant (List.mem_of_mem_tail hline)).1).1 hread

theorem normalForm_plain (ignored note : Line → Bool) {content : List Line}
    (hcontent : ∀ line ∈ content, IsContent line) :
    NormalForm ignored (fun _ => false) (parseLines ignored note .plain content)
      (trim ((relevant ignored content).tail.filter fun line => !isTagLine line && !false)) := by
  have hsummary : (parseLines ignored note .plain content).summary.toList = (relevant ignored content).headD [] := by
    simp [parseLines]
  obtain ⟨hin, hkept, hfirst⟩ := summary_relevant ignored hcontent
  refine ⟨hsummary ▸ hin, hsummary ▸ hkept, ?_, ?_, trim_trimmed _, fun line => staysInBody_trim hcontent, ?_⟩
  · intro hempty
    have htail := hfirst (hsummary ▸ hempty)
    exact ⟨by rw [htail]; rfl, rfl⟩
  · simp [parseLines, describe]
  · intro tag htag
    simp [Parsed.tags, parseLines] at htag

/-! ### Parsing a normal form -/

theorem inLine_spaced {word : List Char} (hword : InLine word) {pieces : List (List Char)}
    (hpieces : ∀ piece ∈ pieces, InLine piece) : InLine (spaced word pieces) := by
  refine inLine_append.mpr ⟨hword, fun c hc => ?_⟩
  obtain ⟨piece, hpiece, hc⟩ := List.mem_flatMap.mp hc
  rcases List.mem_cons.mp hc with rfl | hc
  · decide
  · exact hpieces piece (List.mem_of_mem_filter hpiece) c hc

theorem inLine_line {tag : Tag} (h : tag.WellFormed) : InLine tag.line := by
  cases tag with
  | param type name text =>
    obtain ⟨htype, hname, -, htext⟩ := h
    have hinName : InLine name := by
      rcases hname with ⟨rfl, -⟩ | ⟨word, hword, rfl⟩
      · exact inLine_nil
      · exact inLine_cons.mpr ⟨by decide, hword.2.inLine⟩
    refine inLine_spaced (by decide) fun piece hpiece => ?_
    simp only [List.mem_cons, List.not_mem_nil, or_false] at hpiece
    rcases hpiece with rfl | rfl | rfl
    · exact htype.2.inLine
    · exact hinName
    · exact htext
  | returns type text =>
    obtain ⟨htype, -, htext⟩ := h
    refine inLine_spaced (by decide) fun piece hpiece => ?_
    simp only [List.mem_cons, List.not_mem_nil, or_false] at hpiece
    rcases hpiece with rfl | rfl
    · exact htype.2.inLine
    · exact htext
  | todo text =>
    refine inLine_spaced (by decide) fun piece hpiece => ?_
    rw [List.mem_singleton] at hpiece
    exact hpiece ▸ h
  | other => decide

theorem line_eq_at (tag : Tag) : ∃ rest, tag.line = '@' :: rest := by
  cases tag <;> exact ⟨_, rfl⟩

theorem isContent_line {tag : Tag} (h : tag.WellFormed) : IsContent tag.line := by
  obtain ⟨rest, hrest⟩ := line_eq_at tag
  refine ⟨inLine_line h, isBareStar_of_startsSolid ?_⟩
  rw [hrest]
  exact startsSolid_cons.mpr (by decide)

section
variable {ignored note : Line → Bool} {p : Parsed} {body : List Line}

theorem NormalForm.splitOn_description (h : NormalForm ignored note p body) :
    ∃ front : List Line, (∀ line ∈ front, line = []) ∧ p.description.toList.splitOn '\n' = front ++ body := by
  rw [h.description_eq, String.toList_ofList]
  by_cases hbody : body = []
  · subst hbody
    exact ⟨[[]], by simp, rfl⟩
  · exact ⟨[], by simp, splitOn_unlines (fun line hline => (h.body_stays line hline).content.1) hbody⟩

theorem NormalForm.content_eq (h : NormalForm ignored note p body) :
    ∃ front : List Line, (∀ line ∈ front, line = []) ∧
      p.content = p.summary.toList :: (front ++ body ++ p.tags.map Tag.line) := by
  obtain ⟨front, hfront, hsplit⟩ := h.splitOn_description
  refine ⟨[] :: front, ?_, ?_⟩
  · simpa using hfront
  · rw [Parsed.content, hsplit]
    simp

theorem NormalForm.isContent (h : NormalForm ignored note p body) : ∀ line ∈ p.content, IsContent line := by
  obtain ⟨front, hfront, hcontent⟩ := h.content_eq
  intro line hline
  rw [hcontent] at hline
  simp only [List.mem_cons, List.mem_append, List.mem_map] at hline
  rcases hline with rfl | (hline | hline) | ⟨tag, htag, rfl⟩
  · exact h.summary_content
  · exact hfront line hline ▸ isContent_nil
  · exact (h.body_stays line hline).content
  · exact isContent_line (h.tags_wellFormed tag htag)

/-- The content of a normal form with a summary: the summary, some empty lines, the body and the tags. -/
theorem NormalForm.relevant_content (h : NormalForm ignored note p body) (hat : ∀ rest, ignored ('@' :: rest) = false)
    (hsummary : p.summary.toList ≠ []) :
    ∃ front : List Line, (∀ line ∈ front, line = []) ∧
      relevant ignored p.content = p.summary.toList :: (front ++ body ++ p.tags.map Tag.line) := by
  obtain ⟨front, hfront, hcontent⟩ := h.content_eq
  refine ⟨front.filter fun line => !ignored line, fun line hline => hfront line (List.mem_of_mem_filter hline), ?_⟩
  have hbody : (body.filter fun line => !ignored line) = body :=
    List.filter_eq_self.mpr fun line hline => by simp [(h.body_stays line hline).kept]
  have htags : ((p.tags.map Tag.line).filter fun line => !ignored line) = p.tags.map Tag.line := by
    refine List.filter_eq_self.mpr fun line hline => ?_
    obtain ⟨tag, -, rfl⟩ := List.mem_map.mp hline
    obtain ⟨rest, hrest⟩ := line_eq_at tag
    simp [hrest, hat]
  rw [hcontent, relevant_cons hsummary (h.summary_kept hsummary), List.filter_append, List.filter_append, hbody, htags]

theorem NormalForm.eq_of_summary_nil (h : NormalForm ignored note p body) (hsummary : p.summary.toList = []) :
    p = ⟨"", "", none, [], []⟩ ∧ relevant ignored p.content = [] := by
  obtain ⟨hbody, htags⟩ := h.summary_first hsummary
  obtain ⟨front, hfront, hcontent⟩ := h.content_eq
  constructor
  · have hdescription := h.description_eq
    have hparams := asParam?_tags p
    have hreturns := asReturn?_tags p
    have htodo := asTodo?_tags p
    rw [htags] at hparams hreturns htodo
    obtain ⟨summary, description, returns, params, todo⟩ := p
    simp_all [unlines]
  · have hempty : ∀ line ∈ p.content, line = [] := by
      intro line hline
      rw [hcontent, hsummary, hbody, htags] at hline
      rcases List.mem_cons.mp hline with rfl | hline
      · rfl
      · exact hfront line (by simpa using hline)
    have htrim := @trimFront_append_of_empty (p.content.filter fun line => !ignored line) []
      fun line hline => hempty line (List.mem_of_mem_filter hline)
    simpa [relevant, trimFront] using htrim

theorem describe_body (h : NormalForm ignored note p body) {front : List Line} (hfront : ∀ line ∈ front, line = []) :
    describe ((front ++ body ++ p.tags.map Tag.line).filter fun line => !isTagLine line && !note line) =
      p.description := by
  have hbody : (body.filter fun line => !isTagLine line && !note line) = body :=
    List.filter_eq_self.mpr fun line hline => by simp [(h.body_stays line hline).noTag, (h.body_stays line hline).noNote]
  have htags : ((p.tags.map Tag.line).filter fun line => !isTagLine line && !note line) = [] := by
    refine List.filter_eq_nil_iff.mpr fun line hline => ?_
    obtain ⟨tag, htag, rfl⟩ := List.mem_map.mp hline
    simp [isTagLine, ofLine?_line (h.tags_wellFormed tag htag)]
  rw [List.filter_append, List.filter_append, hbody, htags, List.append_nil, describe,
    trim_append_of_empty fun line hline => hfront line (List.mem_of_mem_filter hline), trim_of_trimmed h.body_trimmed,
    h.description_eq]

theorem filterMap_tags (h : NormalForm ignored note p body) {front : List Line} (hfront : ∀ line ∈ front, line = []) :
    (front ++ body ++ p.tags.map Tag.line).filterMap Tag.ofLine? = p.tags := by
  have hempty : front.filterMap Tag.ofLine? = [] := by
    refine List.filterMap_eq_nil_iff.mpr fun line hline => ?_
    rw [hfront line hline]
    rfl
  have hbody : body.filterMap Tag.ofLine? = [] := by
    refine List.filterMap_eq_nil_iff.mpr fun line hline => ?_
    simpa [isTagLine] using (h.body_stays line hline).noTag
  have htags : (p.tags.map Tag.line).filterMap Tag.ofLine? = p.tags := by
    rw [List.filterMap_map]
    conv_rhs => rw [← @List.filterMap_some _ p.tags]
    exact List.filterMap_congr fun tag htag => ofLine?_line (h.tags_wellFormed tag htag)
  rw [List.filterMap_append, List.filterMap_append, hempty, hbody, htags]
  rfl

theorem parseLines_content_of_summary_nil (h : NormalForm ignored note p body) (hsummary : p.summary.toList = [])
    (note' : Line → Bool) (mode : Mode) : parseLines ignored note' mode p.content = p := by
  obtain ⟨hp, hrelevant⟩ := h.eq_of_summary_nil hsummary
  unfold parseLines
  rw [hrelevant, hp]
  cases mode <;> rfl

/-- **The lines of a normal form are parsed as that form.** -/
theorem parseLines_extract_content (h : NormalForm ignored note p body) (hat : ∀ rest, ignored ('@' :: rest) = false) :
    parseLines ignored note .extract p.content = p := by
  by_cases hsummary : p.summary.toList = []
  · exact parseLines_content_of_summary_nil h hsummary _ _
  · obtain ⟨front, hfront, hrelevant⟩ := h.relevant_content hat hsummary
    have htags := filterMap_tags h hfront
    simp only [parseLines, hrelevant, List.tail_cons, List.headD_cons, describe_body h hfront, htags, asParam?_tags,
      asReturn?_tags, asTodo?_tags, String.ofList_toList]

theorem parseLines_plain_content (h : NormalForm ignored (fun _ => false) p body)
    (hat : ∀ rest, ignored ('@' :: rest) = false) (hp : p = ⟨p.summary, p.description, none, [], []⟩) :
    parseLines ignored note .plain p.content = p := by
  by_cases hsummary : p.summary.toList = []
  · exact parseLines_content_of_summary_nil h hsummary _ _
  · obtain ⟨front, hfront, hrelevant⟩ := h.relevant_content hat hsummary
    have hdescribe := describe_body h hfront
    simp only [Bool.not_false, Bool.and_true] at hdescribe
    simp only [parseLines, hrelevant, List.tail_cons, List.headD_cons, hdescribe, String.ofList_toList]
    exact hp.symm

theorem extract_content_of_no_tags (h : NormalForm ignored (fun _ => false) p body)
    (hat : ∀ rest, ignored ('@' :: rest) = false) (htags : p.tags = []) :
    (parseLines ignored note .extract p.content).params = [] ∧
    (parseLines ignored note .extract p.content).returns = none ∧
    (parseLines ignored note .extract p.content).todo = [] := by
  have hnone : (relevant ignored p.content).tail.filterMap Tag.ofLine? = [] := by
    by_cases hsummary : p.summary.toList = []
    · rw [(h.eq_of_summary_nil hsummary).2]
      rfl
    · obtain ⟨front, hfront, hrelevant⟩ := h.relevant_content hat hsummary
      rw [hrelevant, List.tail_cons, filterMap_tags h hfront, htags]
  simp [parseLines, hnone]

end

/-! ### Parsing again -/

theorem eq_of_parseLines_plain {ignored note : Line → Bool} {content : List Line} {q : Parsed}
    (h : parseLines ignored note .plain content = q) : q = ⟨q.summary, q.description, none, [], []⟩ := by
  subst h
  rfl

theorem isDocComment_render (p : Parsed) : isDocComment (render p).toList = true := by
  rw [render, String.toList_ofList]
  exact isDocComment_layout _ _

theorem content_render {ignored note : Line → Bool} {p : Parsed} {body : List Line}
    (h : NormalForm ignored note p body) : content (render p).toList = p.content := by
  rw [render, String.toList_ofList]
  exact content_layout allBlank_space (by decide) (by simp) h.isContent

/-- **Parsing is done once.** Whatever stands in a doc comment, writing what was parsed and parsing that gives it back, with extraction and without; and what was parsed without extraction holds no tag to extract. Tag lines are the only lines that a later parse could ignore, so the ignored-line patterns must spare them. -/
theorem parse_render {ignored notes : List String} {is ns : List Pattern.Regex}
    (hignored : compileAll ignored = .ok is) (hnotes : compileAll notes = .ok ns)
    (hat : ∀ rest, matchesAny is ('@' :: rest) = false) {raw : String} (hraw : isDocComment raw.toList = true) :
    (∃ p, parse ignored notes .extract raw = .ok (some p) ∧
      parse ignored notes .extract (render p) = .ok (some p)) ∧
    ∃ q, parse ignored notes .plain raw = .ok (some q) ∧
      parse ignored notes .plain (render ⟨q.summary, q.description, none, [], []⟩) = .ok (some q) ∧
      ∃ r, parse ignored notes .extract (render ⟨q.summary, q.description, none, [], []⟩) = .ok (some r) ∧
        r.params = [] ∧ r.returns = none ∧ r.todo = [] := by
  have hcontent : ∀ line ∈ content raw.toList, IsContent line := fun line => isContent_of_mem_content
  constructor
  · have hnormal := normalForm_extract (matchesAny is) (matchesAny ns) hcontent
    refine ⟨_, parse_extract hignored hnotes hraw, ?_⟩
    rw [parse_extract hignored hnotes (isDocComment_render _), content_render hnormal,
      parseLines_extract_content hnormal hat]
  · have hnormal := normalForm_plain (matchesAny is) (matchesAny []) hcontent
    obtain ⟨q, hq⟩ : ∃ q, parseLines (matchesAny is) (matchesAny []) .plain (content raw.toList) = q := ⟨_, rfl⟩
    have hplain := eq_of_parseLines_plain hq
    rw [hq] at hnormal
    refine ⟨q, hq ▸ parse_plain hignored hraw, ?_⟩
    rw [← hplain]
    refine ⟨?_, _, parse_extract hignored hnotes (isDocComment_render q), ?_⟩
    · rw [parse_plain hignored (isDocComment_render q), content_render hnormal,
        parseLines_plain_content hnormal hat hplain]
    · rw [content_render hnormal]
      refine extract_content_of_no_tags hnormal hat ?_
      rw [hplain]
      rfl

/-- A comment whose lines repeat the decoration, whose parameter has a lone sigil for a name, and whose reminder has one colon too many. -/
def malformedComment : String := "  /** x\r\n *  * @\n\t*\t\n * text @todo\n@todo:: a\n * @param  int  $  b \n*/ y"

theorem parse_render_malformedComment :
    isDocComment malformedComment.toList = true ∧
    ∃ p, parse ["#pw-"] ["FIXED\\s"] .extract malformedComment = .ok (some p) ∧
      parse ["#pw-"] ["FIXED\\s"] .extract (render p) = .ok (some p) := by
  have hraw : isDocComment malformedComment.toList = true := by decide
  exact ⟨hraw, (parse_render Pattern.compileAll_directive Pattern.compileAll_fixedNote
    Pattern.matchesAny_directive_at hraw).1⟩

end ApiDoc.DocComment
