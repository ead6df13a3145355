import ApiDoc.Proofs.DocComment.NormalForm

/-!
# Parsing with and without extraction

A comment has the same summary in both modes, and the descriptions differ by the notes only: the lines that a note pattern matches stay without extraction and go with it, and empty lines at both ends go with them.

* `Parsed.lines` are the lines of a description.
* `exists_summary` finds the summary in the content: everything in front of it is empty or ignored.
* `TakenFrom` says where the parts of a parsed comment stand in the content, and `takenFrom_of_normalForm` that this holds in either mode.
* `modes_agree` compares the modes.
-/

namespace ApiDoc.DocComment

open Text

/-! ### Lines of a description -/

/-- The lines of a description. An empty description has none. -/
def Parsed.lines (p : Parsed) : List Line :=
  if p.description = "" then [] else p.description.toList.splitOn '\n'

section
variable {ignored note : Line → Bool} {p : Parsed}

theorem NormalForm.lines_eq {body : List Line} (h : NormalForm ignored note p body) : p.lines = body := by
  rw [Parsed.lines, h.description_eq]
  cases body with
  | nil => rfl
  | cons line rest =>
    have hsplit : (unlines (line :: rest)).splitOn '\n' = line :: rest :=
      splitOn_unlines (fun l hl => (h.body_stays l hl).content.1) (by simp)
    have hne : String.ofList (unlines (line :: rest)) ≠ "" := by
      intro hempty
      -- an empty text has one line, which is empty, and the first line of a trimmed body is not
      rw [String.ofList_eq_empty_iff] at hempty
      rw [hempty] at hsplit
      have hline : line ≠ [] := h.body_trimmed.1 line rfl
      exact hline (List.cons.inj hsplit).1.symm
    rw [if_neg hne, String.toList_ofList, hsplit]

/-! ### Where the parts stand -/

/-- What counts of some content starts with the summary: the lines in front of it are empty or ignored, and of those behind it only ignored ones are left out. -/
theorem exists_summary (ignored : Line → Bool) (content : List Line) :
    ∃ before rest, content = before ++ rest ∧ (∀ line ∈ before, line = [] ∨ ignored line = true) ∧
      relevant ignored content = rest.head?.toList ++ rest.tail.filter fun line => !ignored line := by
  induction content with
  | nil => exact ⟨[], [], rfl, by simp, rfl⟩
  | cons line content ih =>
    obtain ⟨before, rest, hcontent, hbefore, hrelevant⟩ := ih
    by_cases hskip : line = [] ∨ ignored line = true
    · have hdrop : relevant ignored (line :: content) = relevant ignored content := by
        rcases hskip with rfl | hignored
        · rw [relevant, List.filter_cons]
          split_ifs
          · rfl
          · rfl
        · rw [relevant, List.filter_cons_of_neg (by simp [hignored]), relevant]
      exact ⟨line :: before, rest, by rw [hcontent, List.cons_append], List.forall_mem_cons.mpr ⟨hskip, hbefore⟩,
        hdrop.trans hrelevant⟩
    · obtain ⟨hne, hkept⟩ := not_or.mp hskip
      exact ⟨[], line :: content, rfl, by simp, relevant_cons hne (by simpa using hkept) content⟩

/-- A parsed comment takes its parts from some content. The summary is the first line that is neither empty nor ignored, or empty if there is none. The lines of the description stand behind it in their order; none of them is a tag line or ignored, and the first and the last one are not empty. -/
structure TakenFrom (ignored : Line → Bool) (content : List Line) (p : Parsed) : Prop where
  after_summary : ∃ before rest, content = before ++ rest ∧ (∀ line ∈ before, line = [] ∨ ignored line = true) ∧
    p.summary.toList = rest.headD [] ∧ p.lines.Sublist rest.tail
  no_tag : ∀ line ∈ p.lines, (dropBlanks line).head? ≠ some '@'
  kept : ∀ line ∈ p.lines, ignored line = false
  trimmed : Trimmed p.lines

theorem takenFrom_of_normalForm {content : List Line} {keep : Line → Bool}
    (h : NormalForm ignored note p (trim ((relevant ignored content).tail.filter keep)))
    (hsummary : p.summary.toList = (relevant ignored content).headD []) : TakenFrom ignored content p where
  after_summary := by
    obtain ⟨before, rest, hcontent, hbefore, hrelevant⟩ := exists_summary ignored content
    refine ⟨before, rest, hcontent, hbefore, ?_⟩
    rw [hsummary, h.lines_eq, hrelevant]
    cases rest with
    | nil => exact ⟨rfl, List.Sublist.refl _⟩
    | cons summary rest =>
      exact ⟨rfl, (trim_sublist _).trans (List.filter_sublist.trans List.filter_sublist)⟩
  no_tag line hline htag := by
    have hno := (h.body_stays line (h.lines_eq ▸ hline)).noTag
    rw [(isTagLine_iff line).mpr htag] at hno
    cases hno
  kept line hline := (h.body_stays line (h.lines_eq ▸ hline)).kept
  trimmed := by
    rw [h.lines_eq]
    exact h.body_trimmed

end

/-! ### Comparing the modes -/

/-- **The modes differ by the notes.** Parsing with and without extraction both find no doc comment, or both find one with the same summary. The lines of the description with extraction are those without it that no note pattern matches, trimmed again, so the descriptions are equal where no line is a note. In both modes the parts are taken from the content as they stand there. -/
theorem modes_agree {ignored notes : List String} {is ns : List Pattern.Regex} (hignored : compileAll ignored = .ok is)
    (hnotes : compileAll notes = .ok ns) (raw : String) :
    (parse ignored notes .extract raw = .ok none ↔ parse ignored notes .plain raw = .ok none) ∧
    (parse ignored notes .plain raw ≠ .ok none →
      ∃ p q, parse ignored notes .extract raw = .ok (some p) ∧ parse ignored notes .plain raw = .ok (some q) ∧
        p.summary = q.summary ∧
        p.lines = trim (q.lines.filter fun line => !matchesAny ns line) ∧
        ((∀ line ∈ q.lines, matchesAny ns line = false) → p.description = q.description) ∧
        TakenFrom (matchesAny is) (content raw.toList) p ∧ TakenFrom (matchesAny is) (content raw.toList) q) := by
  cases hraw : isDocComment raw.toList with
  | false =>
    have hnone : ∀ mode, parse ignored notes mode raw = .ok none := fun _ => parse_of_not_isDocComment hraw
    exact ⟨iff_of_true (hnone .extract) (hnone .plain), fun h => absurd (hnone .plain) h⟩
  | true =>
    have hextract := parse_extract hignored hnotes hraw
    have hplain := @parse_plain ignored notes is hignored raw hraw
    have hcontent : ∀ line ∈ content raw.toList, IsContent line := fun line => isContent_of_mem_content
    have hp := normalForm_extract (matchesAny is) (matchesAny ns) hcontent
    have hq := normalForm_plain (matchesAny is) (matchesAny []) hcontent
    -- the notes may be left out of the body before it is trimmed or after
    have hlines : (parseLines (matchesAny is) (matchesAny ns) .extract (content raw.toList)).lines =
        trim ((parseLines (matchesAny is) (matchesAny []) .plain (content raw.toList)).lines.filter
          fun line => !matchesAny ns line) := by
      rw [hp.lines_eq, hq.lines_eq, trim_filter_trim, List.filter_filter]
      congr 2
      funext line
      rw [Bool.not_false, Bool.and_true, Bool.and_comm]
    refine ⟨by simp [hextract, hplain], fun _ => ⟨_, _, hextract, hplain, rfl, hlines, fun hnone => ?_,
      takenFrom_of_normalForm hp (by simp [parseLines]), takenFrom_of_normalForm hq (by simp [parseLines])⟩⟩
    rw [List.filter_eq_self.mpr fun line hline => by simp [hnone line hline], hp.lines_eq, hq.lines_eq,
      trim_of_trimmed hq.body_trimmed] at hlines
    rw [hp.description_eq, hq.description_eq, hlines]

/-- A comment with a directive in front of its summary, a note between empty lines, and a tag. -/
def notedComment : String := "/**\n *\n * #pw-group\n * Sum.\n *\n * FIXED now\n *\n * Adds two.\n * @return int\n *\n */"

theorem modes_notedComment :
    ∃ p q, parse ["#pw-"] ["FIXED\\s"] .extract notedComment = .ok (some p) ∧
      parse ["#pw-"] ["FIXED\\s"] .plain notedComment = .ok (some q) ∧ p.summary = q.summary ∧
      q.description = "FIXED now\n\nAdds two." ∧ p.description = "Adds two." ∧
      TakenFrom (matchesAny [Pattern.directive]) (content notedComment.toList) p := by
  have hp : parse ["#pw-"] ["FIXED\\s"] .extract notedComment =
      .ok (some ⟨"Sum.", "Adds two.", some ⟨"int", ""⟩, [], []⟩) := by decide +kernel
  have hq : parse ["#pw-"] ["FIXED\\s"] .plain notedComment =
      .ok (some ⟨"Sum.", "FIXED now\n\nAdds two.", none, [], []⟩) := by decide +kernel
  obtain ⟨-, hagree⟩ := modes_agree Pattern.compileAll_directive Pattern.compileAll_fixedNote notedComment
  obtain ⟨p, q, hextract, hplain, hsummary, -, -, htaken, -⟩ := hagree (by simp [hq])
  obtain rfl : _ = p := Option.some.inj (Except.ok.inj (hp.symm.trans hextract))
  obtain rfl : _ = q := Option.some.inj (Except.ok.inj (hq.symm.trans hplain))
  exact ⟨_, _, hp, hq, hsummary, rfl, rfl, htaken⟩

end ApiDoc.DocComment
