import ApiDoc.Proofs.DocComment.Places
import ApiDoc.Proofs.DocComment.TagName
import ApiDoc.Proofs.Text.Breaks

/-!
# Noise lines

Lines may be put between the lines of a comment without a change to what is parsed: lines that are ignored, empty lines around the summary and the description, and behind the summary lines that are read only to be left out.

* `Noise` says which lines these are, by the place in the content at which they are put in, and `Woven` that lines are put in.
* `Absorbed` says it of one line between two parts of some content, and `parseLines_insert` is the step: such a line may as well be missing.
* `parseLines_woven` takes the step for every line that is put in, and `parse_woven` says it of comments.
-/

namespace ApiDoc.DocComment

open Text

/-! ### Lines that are put in -/

/-- The second list is the first one with further lines put in, each of which is allowed at its place: behind as many lines of the first list as come before it, of which `k` have come already. -/
inductive Woven (allowed : Nat → Line → Prop) : Nat → List Line → List Line → Prop
  | nil {k : Nat} : Woven allowed k [] []
  | kept {k : Nat} {line : Line} {ls ls' : List Line} (h : Woven allowed (k + 1) ls ls') :
    Woven allowed k (line :: ls) (line :: ls')
  | added {k : Nat} {line : Line} {ls ls' : List Line} (hline : allowed k line) (h : Woven allowed k ls ls') :
    Woven allowed k ls (line :: ls')

section
variable {allowed : Nat → Line → Prop} {k : Nat} {ls ls' : List Line}

theorem Woven.map {f : Line → Line} (h : Woven (fun k line => allowed k (f line)) k ls ls') :
    Woven allowed k (ls.map f) (ls'.map f) := by
  induction h with
  | nil => exact .nil
  | kept h ih => exact .kept ih
  | added hline h ih => exact .added hline ih

theorem Woven.mem_or_allowed (h : Woven allowed k ls ls') {line : Line} (hline : line ∈ ls') :
    line ∈ ls ∨ ∃ j, allowed j line := by
  induction h with
  | nil => cases hline
  | kept h ih =>
    rcases List.mem_cons.mp hline with rfl | hline
    · exact Or.inl List.mem_cons_self
    · exact (ih hline).imp_left (List.mem_cons_of_mem _)
  | @added j _ _ _ hallowed h ih =>
    rcases List.mem_cons.mp hline with rfl | hline
    · exact Or.inr ⟨j, hallowed⟩
    · exact ih hline

end

/-- A line that changes nothing when it is put behind the first `k` lines of some content. -/
inductive Noise (ignored note : Line → Bool) (mode : Mode) (content : List Line) (k : Nat) : Line → Prop
  /-- A line that an ignored-line pattern matches, at any place. -/
  | ignored {line : Line} (h : ignored line = true) : Noise ignored note mode content k line
  /-- An empty line in front of the summary, and at any place if there is none. -/
  | before_summary (h : ∀ i ∈ summaryAt? ignored content, k ≤ i) : Noise ignored note mode content k []
  /-- An empty line in front of the description, and at any place if that has no lines. -/
  | before_description (h : ∀ e ∈ describedAt ignored note mode content, k ≤ e.2) : Noise ignored note mode content k []
  /-- An empty line behind the description. -/
  | after_description (h : ∀ e ∈ describedAt ignored note mode content, e.2 < k) : Noise ignored note mode content k []
  /-- A line behind the summary with a tag that is none of the three that are read. -/
  | tag {line : Line} {i : Nat} (hsummary : summaryAt? ignored content = some i) (hi : i < k)
    (h : Tag.ofLine? line = some .other) : Noise ignored note mode content k line
  /-- A note behind the summary, where tags are extracted. -/
  | note {line : Line} {i : Nat} (hsummary : summaryAt? ignored content = some i) (hi : i < k) (hmode : mode = .extract)
    (htag : isTagLine line = false) (h : note line = true) : Noise ignored note mode content k line

section
variable {ignored note : Line → Bool} {mode : Mode} {front back : List Line} {line : Line}

/-! ### One line -/

/-- A line between two parts of some content that may as well be missing. -/
inductive Absorbed (ignored note : Line → Bool) (mode : Mode) (front back : List Line) : Line → Prop
  | ignored {line : Line} (h : ignored line = true) : Absorbed ignored note mode front back line
  /-- An empty line, with empty lines between the summary and it as far as they stay. -/
  | leading (h : ∀ l ∈ (relevant ignored front).tail, stays note mode l = true → l = []) :
    Absorbed ignored note mode front back []
  /-- An empty line behind the summary, with empty lines behind it as far as they stay. -/
  | trailing (hsummary : relevant ignored front ≠ [])
    (h : ∀ l ∈ back, ignored l = false → stays note mode l = true → l = []) : Absorbed ignored note mode front back []
  /-- A line behind the summary that neither stays nor has a tag that is read. -/
  | dropped {line : Line} (hsummary : relevant ignored front ≠ []) (hstays : stays note mode line = false)
    (htag : ∀ tag ∈ Tag.ofLine? line, tag = .other) : Absorbed ignored note mode front back line

/-- Parsing looks at the summary, at the lines that stay behind it up to empty ones at both ends, and at the tags that are read. -/
theorem parseLines_congr {content content' : List Line}
    (hsummary : (relevant ignored content').headD [] = (relevant ignored content).headD [])
    (hbody : trim ((bodyOf ignored content').filter (stays note mode)) =
      trim ((bodyOf ignored content).filter (stays note mode)))
    (htags : ∀ {β : Type} (f : Tag → Option β), f .other = none →
      (bodyOf ignored content').filterMap (fun l => (Tag.ofLine? l).bind f) =
        (bodyOf ignored content).filterMap fun l => (Tag.ofLine? l).bind f) :
    parseLines ignored note mode content' = parseLines ignored note mode content := by
  unfold bodyOf at hbody htags
  cases mode with
  | plain =>
    have hdescription := congrArg (fun ls => String.ofList (unlines ls)) hbody
    exact congrArg₂ (fun summary description => Parsed.mk (String.ofList summary) description none [] []) hsummary
      hdescription
  | extract =>
    simp only [parseLines, List.filterMap_filterMap, describe]
    rw [hsummary, htags _ rfl, htags _ rfl, htags _ rfl]
    exact congrArg (fun ls => Parsed.mk _ (String.ofList (unlines ls)) _ _ _) hbody

theorem bodyOf_append (hfront : relevant ignored front ≠ []) :
    bodyOf ignored (front ++ back) = bodyOf ignored front ++ back.filter fun l => !ignored l := by
  rw [bodyOf, relevant_append hfront, List.tail_append_of_ne_nil hfront, bodyOf]

/-- A line that counts may be missing behind the summary if it has no tag that is read and trimming leaves the same without it. -/
theorem parseLines_insert_of_kept (hfront : relevant ignored front ≠ []) (hkept : ignored line = false)
    (htag : ∀ tag ∈ Tag.ofLine? line, tag = .other)
    (hbody : trim ((bodyOf ignored front ++ ([line] ++ back.filter fun l => !ignored l)).filter (stays note mode)) =
      trim ((bodyOf ignored front ++ back.filter fun l => !ignored l).filter (stays note mode))) :
    parseLines ignored note mode (front ++ line :: back) = parseLines ignored note mode (front ++ back) := by
  have hcons : (line :: back).filter (fun l => !ignored l) = [line] ++ back.filter fun l => !ignored l := by
    rw [List.filter_cons_of_pos (by simp [hkept]), List.singleton_append]
  refine parseLines_congr ?_ ?_ ?_
  · rw [relevant_append hfront, relevant_append hfront]
    obtain ⟨summary, rest, hrelevant⟩ := List.exists_cons_of_ne_nil hfront
    rw [hrelevant]
    rfl
  · rw [bodyOf_append hfront, bodyOf_append hfront, hcons]
    exact hbody
  · intro β f hother
    have hnothing : (Tag.ofLine? line).bind f = none := by
      cases hread : Tag.ofLine? line with
      | none => rfl
      | some tag => rw [htag tag hread, Option.bind_some, hother]
    have hskip : [line].filterMap (fun l => (Tag.ofLine? l).bind f) = [] := List.filterMap_cons_none hnothing
    rw [bodyOf_append hfront, bodyOf_append hfront, hcons, List.filterMap_append, List.filterMap_append,
      List.filterMap_append, hskip, List.nil_append]

theorem relevant_append_of_nil (hfront : relevant ignored front = []) :
    relevant ignored (front ++ back) = relevant ignored back := by
  unfold relevant trimFront at hfront ⊢
  rw [List.filter_append, List.dropWhile_append, if_pos (List.isEmpty_iff.mpr hfront)]

theorem parseLines_eq_of_relevant_eq {content content' : List Line}
    (h : relevant ignored content' = relevant ignored content) :
    parseLines ignored note mode content' = parseLines ignored note mode content := by
  unfold parseLines
  rw [h]

theorem parseLines_insert_of_ignored (h : ignored line = true) :
    parseLines ignored note mode (front ++ line :: back) = parseLines ignored note mode (front ++ back) := by
  refine parseLines_eq_of_relevant_eq ?_
  rw [relevant, List.filter_append, List.filter_cons_of_neg (by simp [h]), ← List.filter_append]
  rfl

theorem ofLine?_nil : Tag.ofLine? [] = none := by decide

theorem parseLines_insert_nil (hfront : relevant ignored front ≠ [])
    (h : (∀ l ∈ (relevant ignored front).tail, stays note mode l = true → l = []) ∨
      ∀ l ∈ back, ignored l = false → stays note mode l = true → l = []) :
    parseLines ignored note mode (front ++ [] :: back) = parseLines ignored note mode (front ++ back) := by
  cases hi : ignored [] with
  | true => exact parseLines_insert_of_ignored hi
  | false =>
    refine parseLines_insert_of_kept hfront hi (by simp [ofLine?_nil]) ?_
    rw [List.filter_append, List.filter_append, List.filter_append]
    refine trim_append_empty_append (fun l hl => List.mem_singleton.mp (List.mem_filter.mp hl).1) ?_
    refine h.imp (fun h l hl => ?_) (fun h l hl => ?_)
    · obtain ⟨hmem, hstays⟩ := List.mem_filter.mp hl
      exact h l hmem hstays
    · obtain ⟨hmem, hstays⟩ := List.mem_filter.mp hl
      obtain ⟨hback, hkept⟩ := List.mem_filter.mp hmem
      exact h l hback (by simpa using hkept) hstays

/-- **A line that is absorbed may as well be missing.** -/
theorem parseLines_insert (h : Absorbed ignored note mode front back line) :
    parseLines ignored note mode (front ++ line :: back) = parseLines ignored note mode (front ++ back) := by
  cases h with
  | ignored h => exact parseLines_insert_of_ignored h
  | leading h =>
    by_cases hfront : relevant ignored front = []
    · -- no line counts before this one, so it is trimmed away in front of the summary
      have hempty : relevant ignored [[]] = [] := relevant_eq_nil_iff.mpr (by simp)
      refine parseLines_eq_of_relevant_eq ?_
      rw [relevant_append_of_nil hfront, relevant_append_of_nil hfront]
      exact relevant_append_of_nil hempty
    · exact parseLines_insert_nil hfront (Or.inl h)
  | trailing hsummary h => exact parseLines_insert_nil hsummary (Or.inr h)
  | dropped hsummary hstays htag =>
    cases hi : ignored line with
    | true => exact parseLines_insert_of_ignored hi
    | false =>
      refine parseLines_insert_of_kept hsummary hi htag ?_
      rw [List.filter_append, List.singleton_append, List.filter_cons_of_neg (by simp [hstays]), ← List.filter_append]

/-! ### Noise is absorbed -/

/-- Lines that are put in behind a line do not matter to it if they do not stay, unless they are empty. -/
theorem Absorbed.mono {back' : List Line} (h : Absorbed ignored note mode front back line)
    (hback : ∀ l ∈ back', l ∈ back ∨ ignored l = true ∨ stays note mode l = false ∨ l = []) :
    Absorbed ignored note mode front back' line := by
  cases h with
  | ignored h => exact .ignored h
  | leading h => exact .leading h
  | dropped hsummary hstays htag => exact .dropped hsummary hstays htag
  | trailing hsummary h =>
    refine .trailing hsummary fun l hl hkept hstays => ?_
    rcases hback l hl with hmem | hignored | hgoes | hempty
    · exact h l hmem hkept hstays
    · rw [hignored] at hkept
      cases hkept
    · rw [hgoes] at hstays
      cases hstays
    · exact hempty

theorem stays_of_isTagLine (h : isTagLine line = true) : stays note mode line = false := by
  cases mode <;> simp [stays, h]

theorem isTagLine_of_ofLine? {tag : Tag} (h : Tag.ofLine? line = some tag) : isTagLine line = true := by
  rw [isTagLine, h, Option.isSome_some]

theorem Noise.ignored_or_goes_or_nil {content : List Line} {k : Nat} (h : Noise ignored note mode content k line) :
    ignored line = true ∨ stays note mode line = false ∨ line = [] := by
  cases h with
  | ignored h => exact Or.inl h
  | before_summary h => exact Or.inr (Or.inr rfl)
  | before_description h => exact Or.inr (Or.inr rfl)
  | after_description h => exact Or.inr (Or.inr rfl)
  | tag hsummary hi h => exact Or.inr (Or.inl (stays_of_isTagLine (isTagLine_of_ofLine? h)))
  | note hsummary hi hmode htag h =>
    subst hmode
    exact Or.inr (Or.inl (by simp [stays, h]))

/-- **A line that is noise at its place is absorbed there.** -/
theorem absorbed_of_noise (h : Noise ignored note mode (front ++ back) front.length line) :
    Absorbed ignored note mode front back line := by
  cases h with
  | ignored h => exact .ignored h
  | before_summary h =>
    refine .leading fun l hl => ?_
    rw [relevant_eq_nil_iff_summaryAt?.mpr h] at hl
    cases hl
  | before_description h =>
    refine .leading fun l hl hstays => ?_
    by_contra hne
    obtain ⟨e, he, hplace⟩ := exists_mem_describedAt_front back hl hstays hne
    have hbefore := h e he
    omega
  | after_description h =>
    by_cases hfront : relevant ignored front = []
    · exact .leading (by simp [hfront])
    · refine .trailing hfront fun l hl hkept hstays => ?_
      by_contra hne
      obtain ⟨e, he, hplace⟩ := exists_mem_describedAt_back hfront hl hkept hstays hne
      have hbehind := h e he
      omega
  | tag hsummary hi h =>
    refine .dropped (relevant_ne_nil_of_summaryAt? hsummary hi) (stays_of_isTagLine (isTagLine_of_ofLine? h)) ?_
    intro tag htag
    exact Option.some.inj (htag.symm.trans h)
  | note hsummary hi hmode htag h =>
    subst hmode
    have hnone : Tag.ofLine? line = none := by simpa [isTagLine] using htag
    exact .dropped (relevant_ne_nil_of_summaryAt? hsummary hi) (by simp [stays, h]) (by simp [hnone])

/-! ### All lines that are put in -/

/-- What is parsed stays the same while noise is put in behind a part of the content, which is gone through line by line. -/
theorem parseLines_append_woven {ls ls' : List Line} {k : Nat} {content : List Line}
    (h : Woven (Noise ignored note mode content) k ls ls') (hcontent : content = front ++ ls) (hk : k = front.length) :
    parseLines ignored note mode (front ++ ls') = parseLines ignored note mode content := by
  -- the part in front holds lines of the content only: what is put in is taken out before the next line is passed
  induction h generalizing front with
  | nil => rw [hcontent]
  | @kept k line ls ls' h ih =>
    have hnext := @ih (front ++ [line]) (by simp [hcontent]) (by simp [hk])
    rwa [List.append_assoc, List.singleton_append] at hnext
  | @added k line ls ls' hline h ih =>
    -- the lines put in behind this one are noise too, so they leave it as it is
    subst hcontent hk
    have habsorbed : Absorbed ignored note mode front ls' line := by
      refine (absorbed_of_noise hline).mono fun l hl => ?_
      exact (h.mem_or_allowed hl).imp_right fun ⟨_, hnoise⟩ => hnoise.ignored_or_goes_or_nil
    rw [parseLines_insert habsorbed, ih rfl rfl]

/-- **Noise may be put into some content.** -/
theorem parseLines_woven {content content' : List Line} (h : Woven (Noise ignored note mode content) 0 content content') :
    parseLines ignored note mode content' = parseLines ignored note mode content :=
  parseLines_append_woven h (List.nil_append content).symm rfl

end

/-! ### Comments -/

theorem content_of_lines_eq {raw : List Char} {first last : Line} {middle : List Line}
    (h : lines raw = first :: (middle ++ [last])) : content raw = middle.map lineContent := by
  rw [content_eq_map, h, inner_cons_concat]

theorem isDocComment_of_lines_eq_cons {raw : List Char} {first : Line} {rest : List Line} (h : lines raw = first :: rest)
    (hfirst : isDocComment first = true) : isDocComment raw = true := by
  obtain ⟨back, rfl⟩ := prefix_of_lines_eq_cons h
  exact isDocComment_append hfirst back

section
variable {ignored notes : List String} {is ns : List Pattern.Regex} {mode : Mode} {raw raw' : String}

/-- **Noise lines do not change what is parsed.** Let lines be put into a comment that opens on its first line, between the first and the last one, each of them such that its content is noise at its place: behind as many lines of the content as come before it. Then both comments are parsed, and the result is the same, its parts standing where they stand in the content of the first. (Line breaks of any kind may part the lines of either comment; a line without characters leaves its lines as they are.) -/
theorem parse_woven {first last : Line} {middle middle' : List Line} (hignored : compileAll ignored = .ok is)
    (hnotes : compileAll notes = .ok ns) (hraw : lines raw.toList = first :: (middle ++ [last]))
    (hraw' : lines raw'.toList = first :: (middle' ++ [last])) (hopen : isDocComment first = true)
    (hnoise : Woven (fun k line => Noise (matchesAny is) (matchesAny ns) mode (content raw.toList) k (lineContent line))
      0 middle middle') :
    ∃ p, parse ignored notes mode raw = .ok (some p) ∧ parse ignored notes mode raw' = .ok (some p) ∧
      StandsAt (matchesAny is) (matchesAny ns) mode (content raw.toList) p := by
  have hwoven := hnoise.map
  rw [← content_of_lines_eq hraw, ← content_of_lines_eq hraw'] at hwoven
  refine ⟨_, parse_of_compileAll hignored hnotes (isDocComment_of_lines_eq_cons hraw hopen), ?_,
    standsAt_parseLines fun line => isContent_of_mem_content⟩
  rw [parse_of_compileAll hignored hnotes (isDocComment_of_lines_eq_cons hraw' hopen), parseLines_woven hwoven]

end

/-- A comment with a summary, a description and a parameter. -/
def quietComment : String := "/**\n * Sum.\n * Adds two.\n * @param int $a\n */"

/-- The same comment with a line of each kind of noise. -/
def noisyComment : String :=
  "/**\n *\n * Sum.\n * FIXED now\n *\n * @throws E\n * Adds two.\n * #pw-group\n * @param int $a\n *\n */"

theorem parse_noisyComment :
    parse ["#pw-"] ["FIXED\\s"] .extract quietComment =
        .ok (some ⟨"Sum.", "Adds two.", none, [⟨"int", "$a", ""⟩], []⟩) ∧
      parse ["#pw-"] ["FIXED\\s"] .extract noisyComment = parse ["#pw-"] ["FIXED\\s"] .extract quietComment := by
  have hquiet : parse ["#pw-"] ["FIXED\\s"] .extract quietComment =
      .ok (some ⟨"Sum.", "Adds two.", none, [⟨"int", "$a", ""⟩], []⟩) := by decide +kernel
  have hsummary : summaryAt? (matchesAny [Pattern.directive]) (content quietComment.toList) = some 0 := by decide +kernel
  have hdescribed : describedAt (matchesAny [Pattern.directive]) (matchesAny [Pattern.fixedNote]) .extract
      (content quietComment.toList) = [("Adds two.".toList, 1)] := by decide +kernel
  have hempty : lineContent " *".toList = [] := by decide +kernel
  have hwoven : Woven (fun k line => Noise (matchesAny [Pattern.directive]) (matchesAny [Pattern.fixedNote]) .extract
      (content quietComment.toList) k (lineContent line)) 0
      [" * Sum.".toList, " * Adds two.".toList, " * @param int $a".toList]
      [" *".toList, " * Sum.".toList, " * FIXED now".toList, " *".toList, " * @throws E".toList, " * Adds two.".toList,
        " * #pw-group".toList, " * @param int $a".toList, " *".toList] := by
    refine .added (hempty ▸ .before_summary (by simp [hsummary])) (.kept ?_)
    refine .added (.note hsummary (by decide) rfl (by decide +kernel) (by decide +kernel)) ?_
    refine .added (hempty ▸ .before_description (by simp [hdescribed])) ?_
    refine .added (.tag hsummary (by decide) (by decide +kernel)) (.kept ?_)
    refine .added (.ignored (by decide +kernel)) (.kept ?_)
    exact .added (hempty ▸ .after_description (by simp [hdescribed])) .nil
  obtain ⟨p, hp, hnoisy, -⟩ := @parse_woven _ _ _ _ _ quietComment noisyComment "/**".toList " */".toList _ _
    Pattern.compileAll_directive Pattern.compileAll_fixedNote (by decide +kernel) (by decide +kernel) (by decide +kernel)
    hwoven
  exact ⟨hquiet, hnoisy.trans hp.symm⟩

end ApiDoc.DocComment
