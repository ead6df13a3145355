import ApiDoc.Proofs.DocComment.Parse
import ApiDoc.Proofs.Settings.Patterns
import ApiDoc.Proofs.Text.Breaks

/-!
# Line breaks in doc comments

A comment means the same with other line breaks. The characters that end a line are blanks too, so the gate passes over them as it does over other blanks, and the opening of a comment holds none. Everything else is read from the lines.

* `parse_eq_of_content_eq`: parsing looks at the gate and at the content only.
* `parse_eq_of_rebroken`: the gate, the content and the parsed comment are the same for texts that differ in their line breaks.
-/

namespace ApiDoc.DocComment

open Text

/-! ### What parsing looks at -/

/-- A comment is parsed by whether it passes the gate and by its content, ill-formed patterns included. -/
theorem parse_eq_of_content_eq {raw raw' : String} (hgate : isDocComment raw.toList = isDocComment raw'.toList)
    (hcontent : content raw.toList = content raw'.toList) (ignored notes : List String) (mode : Mode) :
    parse ignored notes mode raw = parse ignored notes mode raw' := by
  simp only [parse, hgate, hcontent]

/-! ### Other line breaks -/

theorem rebroken_dropBlanks {s t : List Char} (h : Rebroken s t) : Rebroken (dropBlanks s) (dropBlanks t) := by
  unfold dropBlanks
  induction h with
  | nil => exact .nil
  | @kept c s t hc h ih =>
    cases hblank : isBlank c with
    | true => simpa [hblank] using ih
    | false => simpa [hblank] using Rebroken.kept hc h
  | breaks hb hb' h ih =>
    -- line breaks are blanks, so both runs are dropped as a whole
    have hblanks : ∀ b, IsBreakRun b → ∀ c ∈ b, isBlank c = true := fun b hb c hc => isBlank_of_isBreak (hb.2 c hc)
    rw [List.dropWhile_append_of_pos (hblanks _ hb), List.dropWhile_append_of_pos (hblanks _ hb')]
    exact ih

theorem prefix_of_rebroken {s t : List Char} (h : Rebroken s t) {word : List Char} (hword : InLine word)
    (hstart : word <+: s) : word <+: t := by
  induction h generalizing word with
  | nil => exact hstart
  | @kept c s t hc h ih =>
    cases word with
    | nil => exact List.nil_prefix
    | cons d word =>
      obtain ⟨rfl, hrest⟩ := List.cons_prefix_cons.mp hstart
      exact List.cons_prefix_cons.mpr ⟨rfl, ih (inLine_cons.mp hword).2 hrest⟩
  | @breaks b b' s t hb hb' h ih =>
    cases word with
    | nil => exact List.nil_prefix
    | cons d word =>
      -- the word would start with a line break
      obtain ⟨c, b, rfl⟩ := List.exists_cons_of_ne_nil hb.1
      obtain ⟨rfl, -⟩ := List.cons_prefix_cons.mp hstart
      have hbreak := hb.2 d List.mem_cons_self
      rw [(inLine_cons.mp hword).1] at hbreak
      cases hbreak

theorem isDocComment_of_rebroken {s t : List Char} (h : Rebroken s t) (hs : isDocComment s = true) :
    isDocComment t = true := by
  rw [isDocComment_iff] at hs ⊢
  exact prefix_of_rebroken (rebroken_dropBlanks h) (by decide) hs

/-- **Line breaks of another kind or number change nothing.** Texts that differ in their runs of line breaks only both pass the gate or both fail it, they have the same content, and parsing gives the same, in either mode and with any patterns, the ill-formed ones included. -/
theorem parse_eq_of_rebroken {raw raw' : String} (h : Rebroken raw.toList raw'.toList) :
    isDocComment raw.toList = isDocComment raw'.toList ∧ content raw.toList = content raw'.toList ∧
      ∀ ignored notes mode, parse ignored notes mode raw = parse ignored notes mode raw' := by
  have hback : Rebroken raw'.toList raw.toList := rebroken_iff.mpr (rebroken_iff.mp h).symm
  have hgate : isDocComment raw.toList = isDocComment raw'.toList :=
    Bool.eq_iff_iff.mpr ⟨isDocComment_of_rebroken h, isDocComment_of_rebroken hback⟩
  have hcontent : content raw.toList = content raw'.toList := by
    rw [content, content, lines_eq_of_rebroken h]
  exact ⟨hgate, hcontent, parse_eq_of_content_eq hgate hcontent⟩

/-- A comment with line breaks of every kind, some of them doubled. -/
def mixedComment : String := "/**\r\n * Sum.\r\r *\n\r\n * @return int\r */"

def plainComment : String := "/**\n * Sum.\n *\n * @return int\n */"

theorem parse_mixedComment :
    Rebroken mixedComment.toList plainComment.toList ∧
      parse ["#pw-"] ["FIXED\\s"] .extract mixedComment = .ok (some ⟨"Sum.", "", some ⟨"int", ""⟩, [], []⟩) ∧
      parse ["#pw-"] ["("] .extract mixedComment = parse ["#pw-"] ["("] .extract plainComment ∧
      (parse ["#pw-"] ["("] .extract plainComment).isOk = false := by
  have hmixed : Rebroken mixedComment.toList plainComment.toList := rebroken_iff.mpr (by decide +kernel)
  obtain ⟨-, -, hparse⟩ := parse_eq_of_rebroken hmixed
  refine ⟨hmixed, ?_, hparse _ _ _, by decide +kernel⟩
  rw [hparse]
  decide +kernel

end ApiDoc.DocComment
