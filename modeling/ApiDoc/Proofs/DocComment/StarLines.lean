import ApiDoc.Proofs.DocComment.Places

/-!
# Lines that hold nothing but a star

A line of blanks, a star and more blanks holds no content. It becomes an empty line unless a space and at least one more blank follow the star: the star and the space are then removed as a decoration, and the blanks behind them are left over as a line of content.

* `lineContent_starLine`: what is left of such a line.
* `content_starLine`: when it becomes empty, and when it is taken as the summary. Where it becomes empty, no description starts or ends with it.
-/

namespace ApiDoc.DocComment

open Text

/-- What is left of the blanks behind a star: those behind one space, and nothing if no space comes first. -/
def leftover : List Char → Line
  | ' ' :: rest => rest
  | _ => []

theorem leftover_eq_nil_iff {trail : List Char} : leftover trail = [] ↔ ∀ c rest, trail ≠ ' ' :: c :: rest := by
  unfold leftover
  split
  · rename_i rest
    cases rest with
    | nil => simp
    | cons d rest =>
      constructor
      · intro h
        cases h
      · intro h
        exact absurd rfl (h d rest)
  · rename_i hspace
    constructor
    · rintro - c rest rfl
      exact hspace (c :: rest) rfl
    · intro
      rfl

theorem isBareStar_of_blanks {indent trail : List Char} (hindent : AllBlank indent) (hne : indent ≠ [])
    (htrail : AllBlank trail) : isBareStar (indent ++ '*' :: trail) = true := by
  have hspan := spanBlanks_append hindent (t := '*' :: trail) (startsSolid_cons.mpr (by decide))
  obtain ⟨c, indent, rfl⟩ := List.exists_cons_of_ne_nil hne
  unfold isBareStar
  rw [hspan]
  exact List.all_eq_true.mpr htrail

theorem undecorate_of_no_space {indent trail : List Char} (hindent : AllBlank indent) (h : ∀ rest, trail ≠ ' ' :: rest) :
    undecorate (indent ++ '*' :: trail) = indent ++ '*' :: trail := by
  have hspan := spanBlanks_append hindent (t := '*' :: trail) (startsSolid_cons.mpr (by decide))
  unfold undecorate
  rw [hspan]
  split
  · rename_i rest hparts
    obtain ⟨-, htrail⟩ := Prod.mk.inj hparts
    exact absurd (List.cons.inj htrail).2 (h rest)
  · rfl

/-- **What is left of a line that holds nothing but a star.** -/
theorem lineContent_starLine {indent trail : List Char} (hindent : AllBlank indent) (hne : indent ≠ [])
    (htrail : AllBlank trail) : lineContent (indent ++ '*' :: trail) = leftover trail := by
  unfold leftover
  split
  · -- the star goes as a decoration, and a line of blanks is no bare star
    rename_i rest
    have hrest : AllBlank rest := fun c hc => htrail c (List.mem_cons_of_mem _ hc)
    unfold lineContent
    rw [undecorate_decorated hindent hne, clearBareStar, isBareStar_of_allBlank hrest]
    rfl
  · rename_i hspace
    unfold lineContent
    rw [undecorate_of_no_space hindent hspace, clearBareStar, isBareStar_of_blanks hindent hne htrail]
    rfl

/-- Each line between the first and the last one has its content at the place before. -/
theorem getElem?_content {raw : List Char} {i : Nat} {line : Line} (hline : (lines raw)[i + 1]? = some line)
    (hinner : i + 2 < (lines raw).length) : (content raw)[i]? = some (lineContent line) := by
  have hlength : i < (lines raw).tail.length - 1 := by
    rw [List.length_tail]
    omega
  rw [content_eq_map, List.getElem?_map, Text.inner, List.getElem?_dropLast, if_pos hlength, List.getElem?_tail, hline]
  rfl

/-- **A line that holds nothing but a star becomes empty unless a space and another blank follow the star.** What is left of it is then the blanks behind that space. It is taken as the summary exactly if some are left, no ignored-line pattern matches them, and nothing counts among the lines before. Where nothing is left, no description starts or ends with the line. -/
theorem content_starLine {raw : String} {i : Nat} {indent trail : List Char}
    (hline : (lines raw.toList)[i + 1]? = some (indent ++ '*' :: trail)) (hinner : i + 2 < (lines raw.toList).length)
    (hindent : AllBlank indent) (hne : indent ≠ []) (htrail : AllBlank trail) :
    (content raw.toList)[i]? = some (leftover trail) ∧
    (leftover trail = [] ↔ ∀ c rest, trail ≠ ' ' :: c :: rest) ∧
    ∀ ignored notes mode p, parse ignored notes mode raw = .ok (some p) →
      ∃ is ns, compileAll ignored = .ok is ∧ (mode = .extract → compileAll notes = .ok ns) ∧
        StandsAt (matchesAny is) (matchesAny ns) mode (content raw.toList) p ∧
        (summaryAt? (matchesAny is) (content raw.toList) = some i ↔
          leftover trail ≠ [] ∧ matchesAny is (leftover trail) = false ∧
            ∀ line ∈ (content raw.toList).take i, line = [] ∨ matchesAny is line = true) ∧
        (leftover trail = [] → ∀ e,
          ((describedAt (matchesAny is) (matchesAny ns) mode (content raw.toList)).head? = some e ∨
            (describedAt (matchesAny is) (matchesAny ns) mode (content raw.toList)).getLast? = some e) → e.2 ≠ i) := by
  have hplace : (content raw.toList)[i]? = some (leftover trail) := by
    rw [getElem?_content hline hinner, lineContent_starLine hindent hne htrail]
  refine ⟨hplace, leftover_eq_nil_iff, fun ignored notes mode p hparse => ?_⟩
  obtain ⟨is, ns, his, hns, hparsed⟩ := exists_parseLines (isDocComment_of_parse hparse) hparse
  obtain rfl := Option.some.inj hparsed
  refine ⟨is, ns, his, hns, standsAt_parseLines fun line => isContent_of_mem_content, ?_, ?_⟩
  · rw [summaryAt?_eq_some_iff]
    simp only [hplace, Option.some.injEq, exists_eq_left']
  · rintro hempty e he rfl
    -- the lines at both ends of a description are not empty, and this one is
    have hmem : e ∈ describedAt (matchesAny is) (matchesAny ns) mode (content raw.toList) :=
      he.elim List.mem_of_head? List.mem_of_getLast?
    have hline : e.1 = leftover trail := Option.some.inj ((getElem?_of_mem_describedAt hmem).symm.trans hplace)
    exact he.elim ne_nil_of_head?_describedAt ne_nil_of_getLast?_describedAt (hline.trans hempty)

/-- A comment that starts with a star before a tab. -/
def tabbedComment : String := "/**\n *\t \n * Sum.\n */"

theorem content_tabbedComment :
    (lines tabbedComment.toList)[1]? = some (" ".toList ++ '*' :: "\t ".toList) ∧
      2 < (lines tabbedComment.toList).length ∧ AllBlank " ".toList ∧ AllBlank "\t ".toList ∧
      (content tabbedComment.toList)[0]? = some [] ∧
      parse ["#pw-"] ["FIXED\\s"] .plain tabbedComment = .ok (some ⟨"Sum.", "", none, [], []⟩) ∧
      summaryAt? (matchesAny [Pattern.directive]) (content tabbedComment.toList) ≠ some 0 := by
  have hline : (lines tabbedComment.toList)[0 + 1]? = some (" ".toList ++ '*' :: "\t ".toList) := by decide +kernel
  have hinner : 0 + 2 < (lines tabbedComment.toList).length := by decide +kernel
  have hindent : AllBlank " ".toList := by decide +kernel
  have htrail : AllBlank "\t ".toList := by decide +kernel
  have hparse : parse ["#pw-"] ["FIXED\\s"] .plain tabbedComment = .ok (some ⟨"Sum.", "", none, [], []⟩) := by
    decide +kernel
  have hempty : leftover "\t ".toList = [] := by decide +kernel
  obtain ⟨hplace, -, hall⟩ := content_starLine hline hinner hindent (by decide +kernel) htrail
  obtain ⟨is, ns, his, -, -, hsummary, -⟩ := hall _ _ _ _ hparse
  obtain rfl : _ = is := Except.ok.inj (Pattern.compileAll_directive.symm.trans his)
  refine ⟨hline, hinner, hindent, htrail, hempty ▸ hplace, hparse, fun h => ?_⟩
  exact (hsummary.mp h).1 hempty

/-- A comment that starts with a star before two spaces. -/
def spacedComment : String := "/**\n *  \n * Sum.\n */"

theorem not_always_emptied :
    ¬ ∀ (raw : String) (i : Nat) (indent trail : List Char),
      (lines raw.toList)[i + 1]? = some (indent ++ '*' :: trail) → i + 2 < (lines raw.toList).length →
      AllBlank indent → indent ≠ [] → AllBlank trail → (content raw.toList)[i]? = some [] := by
  intro hall
  have hempty := hall spacedComment 0 [' '] [' ', ' '] (by decide +kernel) (by decide +kernel) (by decide) (by decide)
    (by decide)
  have hleft : (content spacedComment.toList)[0]? = some [' '] := by decide +kernel
  rw [hleft] at hempty
  exact absurd hempty (by decide)

end ApiDoc.DocComment
