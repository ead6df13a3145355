import ApiDoc.Proofs.DocComment.StarLines

/-!
# Which lines can be content

A list of lines is the content of some comment exactly if none of its lines holds a line break and none is a star between blanks, with a blank in front. These are also the lists that the standard layout keeps: laid out under any indent, they are read back as they were, and no other list is.

The lines may well look like decorated ones, since only one decoration is removed from each.
-/

namespace ApiDoc.DocComment

open Text

/-- A star between blanks, with one blank in front of it at least. -/
def IsStarLine (line : Line) : Prop :=
  ∃ before after, line = before ++ '*' :: after ∧ before ≠ [] ∧ AllBlank before ∧ AllBlank after

theorem isBareStar_iff {line : Line} : isBareStar line = true ↔ IsStarLine line := by
  constructor
  · intro h
    obtain ⟨hparts, hblanks, -⟩ := spanBlanks_spec line
    unfold isBareStar at h
    split at h
    · rename_i c before after hspan
      rw [hspan] at hparts hblanks
      exact ⟨c :: before, after, hparts.symm, List.cons_ne_nil _ _, hblanks, List.all_eq_true.mp h⟩
    · cases h
  · rintro ⟨before, after, rfl, hne, hbefore, hafter⟩
    exact isBareStar_of_blanks hbefore hne hafter

theorem isContent_iff {line : Line} : IsContent line ↔ InLine line ∧ ¬ IsStarLine line := by
  rw [IsContent, ← isBareStar_iff, Bool.not_eq_true]

/-- **The standard layout is read back exactly on the lists that are content.** Whatever the indent, a list of lines is the content of the comment laid out with it if and only if no line of it holds a line break or is a star between blanks, with a blank in front. The content of any comment is such a list, and every such list is the content of a comment, so laying out the content of a comment and reading it again gives the same content. -/
theorem content_layout_eq_iff {indent : List Char} (hblank : AllBlank indent) (hindent : InLine indent) (hne : indent ≠ []) :
    (∀ ls, content (layout indent ls) = ls ↔ ∀ line ∈ ls, InLine line ∧ ¬ IsStarLine line) ∧
    (∀ ls, (∃ raw, content raw = ls) ↔ ∀ line ∈ ls, InLine line ∧ ¬ IsStarLine line) ∧
    ∀ raw, content (layout indent (content raw)) = content raw := by
  have hcontent (raw : List Char) : ∀ line ∈ content raw, InLine line ∧ ¬ IsStarLine line := by
    intro line hline
    exact isContent_iff.mp (isContent_of_mem_content hline)
  have hlayout {ls : List Line} (h : ∀ line ∈ ls, InLine line ∧ ¬ IsStarLine line) : content (layout indent ls) = ls := by
    apply content_layout hblank hindent hne
    intro line hline
    exact isContent_iff.mpr (h line hline)
  refine ⟨fun ls => ⟨?_, hlayout⟩, fun ls => ⟨?_, ?_⟩, fun raw => hlayout (hcontent raw)⟩
  · intro h
    rw [← h]
    exact hcontent _
  · rintro ⟨raw, rfl⟩
    exact hcontent raw
  · intro h
    exact ⟨layout indent ls, hlayout h⟩

/-- Lines that look like decorated lines, or like delimiters, and are none. -/
def lookalikes : List Line := ["* ".toList, "".toList, " * a list".toList, "*".toList, "/**".toList, " */".toList, "\u2028".toList]

theorem content_layout_lookalikes :
    content (layout "\t\u00a0".toList lookalikes) = lookalikes ∧
      content (layout "\t\u00a0".toList [" * ".toList]) ≠ [" * ".toList] ∧
      (¬ ∃ raw, content raw = [" * ".toList]) ∧
      content (layout "\t\u00a0".toList (content "/** a\n \t* b\r\n*\n c */".toList)) = content "/** a\n \t* b\r\n*\n c */".toList := by
  have hblank : AllBlank "\t\u00a0".toList := by decide +kernel
  obtain ⟨hkept, hsome, hagain⟩ := content_layout_eq_iff hblank (by decide +kernel) (by decide +kernel)
  have hlookalikes : ∀ line ∈ lookalikes, InLine line ∧ ¬ IsStarLine line := by
    simp only [← isBareStar_iff]
    decide +kernel
  have hstar : ¬ ∀ line ∈ [" * ".toList], InLine line ∧ ¬ IsStarLine line := by
    simp only [← isBareStar_iff]
    decide +kernel
  exact ⟨(hkept _).mpr hlookalikes, fun h => hstar ((hkept _).mp h), fun h => hstar ((hsome _).mp h), hagain _⟩

end ApiDoc.DocComment
