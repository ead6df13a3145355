import ApiDoc.Proofs.DocComment.LineBreaks

/-!
# Blanks in front of a comment

The gate passes over all blanks in front of an opening, while the first line of a comment is left out of its content, whatever it holds. The two agree as long as the blanks hold no line break. Behind a line break the opening is not on the first line, so its line is content, as are the lines of blanks before it.

* `strayLines` are the lines that blanks in front of a comment add to its content (`content_blanks_append`).
* `parse_behind_blanks` compares a comment with the same comment behind further blanks.
-/

namespace ApiDoc.DocComment

open Text

/-! ### Openings -/

theorem exists_lines_of_opening {comment : List Char} (h : opening <+: comment) :
    ∃ first rest, lines comment = first :: rest ∧ opening <+: first := by
  obtain ⟨after, rfl⟩ := h
  obtain ⟨l, ls, hlines⟩ := List.exists_cons_of_ne_nil (lines_ne_nil after)
  refine ⟨opening ++ l, ls, ?_, List.prefix_append _ _⟩
  rw [lines_append_of_inLine (by decide), hlines]
  rfl

/-! ### Stray lines -/

/-- The lines that blanks in front of a comment add to its content. Blanks without a line break add none. Otherwise every line of theirs between the first and the last is added, and so is the line that opens the comment, behind the blanks on it, unless the comment ends on that line. -/
def strayLines (blanks comment : List Char) : List Line :=
  if InLine blanks then []
  else Text.inner (lines blanks) ++
    if InLine comment then [] else [(lines blanks).getLastD [] ++ (lines comment).headD []]

theorem lineContent_of_allBlank {blanks : List Char} (hblanks : AllBlank blanks) : lineContent blanks = blanks := by
  have h := lineContent_of_head_ne_star hblanks startsSolid_nil (by simp)
  rwa [List.append_nil] at h

/-- A line that opens a comment is content as it stands, with the blanks in front of the opening. -/
theorem lineContent_of_opening {blanks first : List Char} (hblanks : AllBlank blanks) (hfirst : opening <+: first) :
    lineContent (blanks ++ first) = blanks ++ first := by
  refine lineContent_of_head_ne_star hblanks (startsSolid_of_opening hfirst) ?_
  rw [head?_of_opening hfirst]
  decide

theorem getLastD_cons_concat (first : Line) (middle : List Line) (last : Line) :
    (first :: (middle ++ [last])).getLastD [] = last := by
  rw [← List.cons_append, List.getLastD_concat]

theorem inLine_iff_of_lines_eq_cons {s first : List Char} {rest : List Line} (h : lines s = first :: rest) :
    InLine s ↔ rest = [] := by
  constructor
  · intro hs
    have hone : lines s = [s] := linesFrom_inLine hs
    exact (List.cons.inj (h.symm.trans hone)).2
  · rintro rfl
    obtain rfl := eq_of_lines_eq_singleton h
    exact inLine_of_mem_lines (h ▸ List.mem_singleton_self s)

theorem map_lineContent_of_allBlank {ls : List Line} (h : ∀ l ∈ ls, AllBlank l) : ls.map lineContent = ls := by
  conv_rhs => rw [← List.map_id ls]
  exact List.map_congr_left fun l hl => lineContent_of_allBlank (h l hl)

theorem lines_blanks_append {blanks comment : List Char} (hcomment : opening <+: comment) {start last first : Line}
    {middle rest : List Line} (hblanks : lines blanks = start :: (middle ++ [last])) (hlines : lines comment = first :: rest) :
    lines (blanks ++ comment) = start :: (middle ++ (last ++ first) :: rest) := by
  have hstart : ∀ c ∈ comment.head?, isBreak c = false := by
    intro c hc
    rw [head?_of_opening hcomment] at hc
    obtain rfl := Option.some.inj hc
    rfl
  have hblanks' : lines blanks = start :: middle ++ [last] := hblanks
  rw [lines_append hstart hblanks', hlines]
  rfl

/-- **The content behind blanks is the stray lines and the content of the comment.** -/
theorem content_blanks_append {blanks comment : List Char} (hblanks : AllBlank blanks) (hcomment : opening <+: comment) :
    content (blanks ++ comment) = strayLines blanks comment ++ content comment := by
  obtain ⟨first, rest, hlines, hfirst⟩ := exists_lines_of_opening hcomment
  rw [content_eq_map, content_eq_map, hlines]
  unfold strayLines
  by_cases hin : InLine blanks
  · rw [if_pos hin, lines_append_of_inLine hin, hlines]
    rfl
  · obtain ⟨start, middle, last, hsplit⟩ := exists_lines_of_not_inLine hin
    have hall : ∀ l ∈ lines blanks, AllBlank l := fun l hl c hc => hblanks c (mem_of_mem_lines hl hc)
    have hlast : AllBlank last := hall last (by simp [hsplit])
    have hmiddle : ∀ l ∈ middle, AllBlank l := fun l hl => hall l (by simp [hsplit, hl])
    rw [if_neg hin, lines_blanks_append hcomment hsplit hlines, hsplit, inner_cons_concat, getLastD_cons_concat]
    -- the first line of the comment has become content, unless it is the last one too
    by_cases hone : InLine comment
    · obtain rfl := (inLine_iff_of_lines_eq_cons hlines).mp hone
      rw [if_pos hone, inner_cons_concat, map_lineContent_of_allBlank hmiddle, List.append_nil]
      exact (List.append_nil middle).symm
    · have hrest : rest ≠ [] := fun h => hone ((inLine_iff_of_lines_eq_cons hlines).mpr h)
      obtain ⟨more, ending, rfl⟩ : ∃ more ending, rest = more ++ [ending] :=
        ⟨_, _, (List.dropLast_concat_getLast hrest).symm⟩
      have hregroup : middle ++ (last ++ first) :: (more ++ [ending]) = middle ++ (last ++ first) :: more ++ [ending] := by
        simp
      rw [if_neg hone, hlines, hregroup, inner_cons_concat, inner_cons_concat, List.map_append, List.map_cons,
        map_lineContent_of_allBlank hmiddle, lineContent_of_opening hlast hfirst, List.headD_cons, List.append_assoc]
      rfl

/-- Further blanks add no stray lines if they hold no line break. -/
theorem strayLines_append_of_inLine {blanks : List Char} (h : InLine blanks) (lead comment : List Char) :
    strayLines (blanks ++ lead) comment = strayLines lead comment := by
  unfold strayLines
  by_cases hlead : InLine lead
  · rw [if_pos hlead, if_pos (inLine_append.mpr ⟨h, hlead⟩)]
  · have hboth : ¬ InLine (blanks ++ lead) := fun hall => hlead (inLine_append.mp hall).2
    obtain ⟨first, middle, last, hlines⟩ := exists_lines_of_not_inLine hlead
    rw [if_neg hlead, if_neg hboth, lines_append_of_inLine h, hlines, putFirst, getLastD_cons_concat,
      getLastD_cons_concat]
    rfl

/-- An opening behind a line break stands on a stray line, if its comment goes on behind that line. -/
theorem exists_opening_mem_strayLines {blanks comment : List Char} (hblanks : AllBlank blanks)
    (hcomment : opening <+: comment) (hbreak : ¬ InLine blanks) (hmore : ¬ InLine comment) :
    ∃ line ∈ strayLines blanks comment, isDocComment line = true := by
  obtain ⟨first, rest, hlines, hfirst⟩ := exists_lines_of_opening hcomment
  obtain ⟨start, middle, last, hsplit⟩ := exists_lines_of_not_inLine hbreak
  have hlast : AllBlank last := fun c hc => hblanks c (mem_of_mem_lines (l := last) (by simp [hsplit]) hc)
  refine ⟨last ++ first, ?_, isDocComment_blanks_append hlast hfirst⟩
  unfold strayLines
  rw [if_neg hbreak, if_neg hmore, hsplit, hlines, getLastD_cons_concat, List.headD_cons]
  exact List.mem_append_right _ (List.mem_singleton_self _)

/-! ### Comments behind blanks -/

/-- **Blanks in front of a comment matter through their line breaks only.** The gate accepts a comment behind any blanks. Behind blanks without a line break it is parsed as it is alone, in either mode and with any patterns. Behind any blanks, its content differs from what it is alone in the stray lines only, so it is parsed alike where these are the same. The line that opens it is among them, and thus content, as soon as a line break stands in front of the opening and the comment goes on behind that line. -/
theorem parse_behind_blanks {blanks raw : String} (hblanks : AllBlank blanks.toList)
    (hraw : isDocComment raw.toList = true) :
    isDocComment (blanks ++ raw).toList = true ∧
    (InLine blanks.toList → ∀ ignored notes mode,
      parse ignored notes mode (blanks ++ raw) = parse ignored notes mode raw) ∧
    ∃ lead comment, raw.toList = lead ++ comment ∧ AllBlank lead ∧ opening <+: comment ∧
      content raw.toList = strayLines lead comment ++ content comment ∧
      content (blanks ++ raw).toList = strayLines (blanks.toList ++ lead) comment ++ content comment ∧
      (strayLines (blanks.toList ++ lead) comment = strayLines lead comment → ∀ ignored notes mode,
        parse ignored notes mode (blanks ++ raw) = parse ignored notes mode raw) ∧
      (¬ InLine (blanks.toList ++ lead) → ¬ InLine comment →
        ∃ line ∈ content (blanks ++ raw).toList, isDocComment line = true) := by
  obtain ⟨lead, comment, hparts, hlead, hcomment⟩ := exists_opening hraw
  have htext : (blanks ++ raw).toList = (blanks.toList ++ lead) ++ comment := by
    rw [String.toList_append, hparts, List.append_assoc]
  have hboth : AllBlank (blanks.toList ++ lead) := by
    intro c hc
    rcases List.mem_append.mp hc with hc | hc
    · exact hblanks c hc
    · exact hlead c hc
  have hgate : isDocComment (blanks ++ raw).toList = true := htext ▸ isDocComment_blanks_append hboth hcomment
  have halone : content raw.toList = strayLines lead comment ++ content comment :=
    hparts ▸ content_blanks_append hlead hcomment
  have hbehind : content (blanks ++ raw).toList = strayLines (blanks.toList ++ lead) comment ++ content comment :=
    htext ▸ content_blanks_append hboth hcomment
  have halike : strayLines (blanks.toList ++ lead) comment = strayLines lead comment → ∀ ignored notes mode,
      parse ignored notes mode (blanks ++ raw) = parse ignored notes mode raw := by
    intro hstray
    exact parse_eq_of_content_eq (hgate.trans hraw.symm) (by rw [hbehind, halone, hstray])
  refine ⟨hgate, fun hin => halike (strayLines_append_of_inLine hin lead comment), lead, comment, hparts, hlead, hcomment,
    halone, hbehind, halike, fun hbreak hmore => ?_⟩
  obtain ⟨line, hline, hopen⟩ := exists_opening_mem_strayLines hboth hcomment hbreak hmore
  exact ⟨line, hbehind ▸ List.mem_append_left _ hline, hopen⟩

def summedComment : String := "/**\n * Sum.\n */"

theorem parse_behind_wideBlanks :
    AllBlank "\t \u2003\u2028".toList ∧ isDocComment summedComment.toList = true ∧
      parse ["#pw-"] ["FIXED\\s"] .plain ("\t \u2003\u2028" ++ summedComment) = .ok (some ⟨"Sum.", "", none, [], []⟩) := by
  have hblanks : AllBlank "\t \u2003\u2028".toList := by decide +kernel
  have hraw : isDocComment summedComment.toList = true := by decide +kernel
  refine ⟨hblanks, hraw, ?_⟩
  obtain ⟨-, hsame, -⟩ := parse_behind_blanks hblanks hraw
  rw [hsame (by decide +kernel)]
  decide +kernel

theorem not_always_same_behind_blanks :
    ¬ ∀ (ignored notes : List String) (mode : Mode) (blanks raw : String), AllBlank blanks.toList →
      isDocComment raw.toList = true → parse ignored notes mode (blanks ++ raw) = parse ignored notes mode raw := by
  intro hall
  have hsame := hall ["#pw-"] ["FIXED\\s"] .plain "\n" summedComment (by decide +kernel) (by decide +kernel)
  have halone : parse ["#pw-"] ["FIXED\\s"] .plain summedComment = .ok (some ⟨"Sum.", "", none, [], []⟩) := by
    decide +kernel
  have hbehind : parse ["#pw-"] ["FIXED\\s"] .plain ("\n" ++ summedComment) =
      .ok (some ⟨"/**", "Sum.", none, [], []⟩) := by
    decide +kernel
  rw [hbehind, halone] at hsame
  exact absurd hsame (by decide)

end ApiDoc.DocComment
