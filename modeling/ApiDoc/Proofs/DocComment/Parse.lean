import ApiDoc.DocComment.Parse
import ApiDoc.Proofs.DocComment.Decoration
import ApiDoc.Proofs.DocComment.Tag
import ApiDoc.Proofs.Traversal

/-!
# Parsing with compiled patterns

Once the patterns of the settings compile, parsing a doc comment is `parseLines` on its content, with the patterns as tests on lines. What follows says how `parseLines` treats content that starts with a summary.
-/

namespace ApiDoc.DocComment

open Text

variable {ignored notes : List String} {is ns : List Pattern.Regex}

theorem parse_of_not_isDocComment {mode : Mode} {raw : String} (h : isDocComment raw.toList = false) :
    parse ignored notes mode raw = .ok none := by
  rw [parse, h]
  rfl

theorem parse_extract (hi : compileAll ignored = .ok is) (hn : compileAll notes = .ok ns) {raw : String}
    (hraw : isDocComment raw.toList = true) :
    parse ignored notes .extract raw =
      .ok (some (parseLines (matchesAny is) (matchesAny ns) .extract (content raw.toList))) := by
  simp only [parse, hraw, hi, hn]
  rfl

theorem parse_plain (hi : compileAll ignored = .ok is) {raw : String} (hraw : isDocComment raw.toList = true) :
    parse ignored notes .plain raw =
      .ok (some (parseLines (matchesAny is) (matchesAny []) .plain (content raw.toList))) := by
  simp only [parse, hraw, hi]
  rfl

theorem parse_of_compileAll (hi : compileAll ignored = .ok is) (hn : compileAll notes = .ok ns) {mode : Mode}
    {raw : String} (hraw : isDocComment raw.toList = true) :
    parse ignored notes mode raw =
      .ok (some (parseLines (matchesAny is) (matchesAny ns) mode (content raw.toList))) := by
  cases mode with
  | extract => exact parse_extract hi hn hraw
  | plain => exact parse_plain hi hraw

theorem exists_parseLines {mode : Mode} {raw : String} {parsed : Option Parsed} (hraw : isDocComment raw.toList = true)
    (h : parse ignored notes mode raw = .ok parsed) :
    ∃ is ns, compileAll ignored = .ok is ∧ (mode = .extract → compileAll notes = .ok ns) ∧
      parsed = some (parseLines (matchesAny is) (matchesAny ns) mode (content raw.toList)) := by
  rw [parse, hraw] at h
  obtain ⟨is, his, h⟩ := bind_eq_ok_iff.mp h
  cases mode with
  | plain => exact ⟨is, [], his, fun hmode => absurd hmode (by decide), (Except.ok.inj h).symm⟩
  | extract =>
    obtain ⟨ns, hns, h⟩ := bind_eq_ok_iff.mp h
    exact ⟨is, ns, his, fun _ => hns, (Except.ok.inj h).symm⟩

theorem isDocComment_of_parse {mode : Mode} {raw : String} {p : Parsed} (h : parse ignored notes mode raw = .ok (some p)) :
    isDocComment raw.toList = true := by
  by_contra hraw
  rw [parse_of_not_isDocComment (by simpa using hraw)] at h
  cases h

/-! ### Lines -/

theorem isTagLine_iff (line : Line) : isTagLine line = true ↔ (dropBlanks line).head? = some '@' := isSome_ofLine? line

theorem isBareStar_of_isTagLine {line : Line} (h : isTagLine line = true) : isBareStar line = false := by
  obtain ⟨rest, hrest⟩ := List.head?_eq_some_iff.mp ((isTagLine_iff line).mp h)
  rw [dropBlanks_eq] at hrest
  rw [isBareStar]
  split
  · rename_i hspan
    rw [hspan] at hrest
    simp at hrest
  · rfl

/-! ### Content with a summary -/

/-- A line of content that is neither empty nor ignored is the summary when it comes first. -/
theorem relevant_cons {ignored : Line → Bool} {summary : Line} (hne : summary ≠ []) (hkept : ignored summary = false)
    (rest : List Line) :
    relevant ignored (summary :: rest) = summary :: rest.filter fun line => !ignored line := by
  rw [relevant, List.filter_cons_of_pos (by simp [hkept]), trimFront_of_head]
  intro line hline
  obtain rfl : summary = line := by simpa using hline
  exact hne

theorem parseLines_extract {ignored note : Line → Bool} {content : List Line} {summary : Line} {body : List Line}
    (h : relevant ignored content = summary :: body) :
    parseLines ignored note .extract content =
      { summary := String.ofList summary
        description := describe (body.filter fun line => !isTagLine line && !note line)
        returns := (body.filterMap fun line => (Tag.ofLine? line).bind Tag.asReturn?).getLast?
        params := body.filterMap fun line => (Tag.ofLine? line).bind Tag.asParam?
        todo := body.filterMap fun line => (Tag.ofLine? line).bind Tag.asTodo? } := by
  simp only [parseLines, h, List.tail_cons, List.headD_cons, List.filterMap_filterMap]

end ApiDoc.DocComment
