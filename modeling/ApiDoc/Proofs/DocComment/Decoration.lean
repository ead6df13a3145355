import ApiDoc.DocComment.Decoration
import ApiDoc.Proofs.Text.Lines

/-!
# Decorated comments

The content lines of a comment, seen from both sides.

* `isContent_of_mem_content`: every content line stands inside one line and is no bare star.
* `content_joinLines`: of a comment written line by line, the content is what stands between the first and the last line, without its decoration.
* `content_layout`: lines that can be content at all are the content of the comment that `layout` writes.
* `isDocComment_iff`: a doc comment is an opening behind blanks.
-/

namespace ApiDoc.DocComment

open Text

/-! ### Decorations -/

/-- What a line of content can be: it stands inside one line and is no bare star. -/
def IsContent (line : Line) : Prop := InLine line ∧ isBareStar line = false

@[simp] theorem isBareStar_nil : isBareStar [] = false := by decide

theorem isContent_nil : IsContent [] := ⟨inLine_nil, isBareStar_nil⟩

theorem isBareStar_of_startsSolid {line : Line} (h : StartsSolid line) : isBareStar line = false := by
  have hspan := spanBlanks_append allBlank_nil h
  rw [List.nil_append] at hspan
  simp [isBareStar, hspan]

theorem undecorate_decorated {indent : List Char} (hblank : AllBlank indent) (hne : indent ≠ []) (line : Line) :
    undecorate (indent ++ '*' :: ' ' :: line) = line := by
  have hspan := spanBlanks_append hblank (t := '*' :: ' ' :: line) (startsSolid_cons.mpr (by decide))
  obtain ⟨c, indent, rfl⟩ := List.exists_cons_of_ne_nil hne
  rw [undecorate, hspan]
  rfl

theorem undecorate_star {indent : List Char} (hblank : AllBlank indent) :
    undecorate (indent ++ ['*']) = indent ++ ['*'] := by
  have hspan := spanBlanks_append hblank (t := ['*']) (by decide)
  rw [undecorate, hspan]
  split
  · rename_i heq
    simp at heq
  · rfl

theorem isBareStar_star {indent : List Char} (hblank : AllBlank indent) (hne : indent ≠ []) :
    isBareStar (indent ++ ['*']) = true := by
  have hspan := spanBlanks_append hblank (t := ['*']) (by decide)
  obtain ⟨c, indent, rfl⟩ := List.exists_cons_of_ne_nil hne
  rw [isBareStar, hspan]
  rfl

theorem clearBareStar_of_isContent {line : Line} (h : IsContent line) : clearBareStar line = line := by
  simp [clearBareStar, h.2]

theorem undecorate_suffix (line : Line) : undecorate line <:+ line := by
  rw [undecorate]
  obtain ⟨hparts, -, -⟩ := spanBlanks_spec line
  split
  · rename_i c blanks rest hspan
    rw [hspan] at hparts
    exact ⟨c :: blanks ++ ['*', ' '], by simpa using hparts⟩
  · exact List.suffix_refl _

theorem isContent_clearBareStar {line : Line} (h : InLine line) : IsContent (clearBareStar line) := by
  rw [clearBareStar]
  split_ifs with hstar
  · exact isContent_nil
  · exact ⟨h, by simpa using hstar⟩

theorem isContent_of_mem_content {raw : List Char} {line : Line} (h : line ∈ content raw) : IsContent line := by
  obtain ⟨stripped, hstripped, rfl⟩ := List.mem_map.mp h
  have hmem : stripped ∈ (lines raw).map undecorate :=
    List.mem_of_mem_tail (List.dropLast_subset _ hstripped)
  obtain ⟨written, hwritten, rfl⟩ := List.mem_map.mp hmem
  exact isContent_clearBareStar ((inLine_of_mem_lines hwritten).of_suffix (undecorate_suffix written))

/-- What a line between the delimiters gives to the content: the line without its decoration, or nothing if it holds nothing but a star. -/
def lineContent (line : Line) : Line := clearBareStar (undecorate line)

/-- The content is taken line by line. -/
theorem content_eq_map (raw : List Char) : content raw = (Text.inner (lines raw)).map lineContent := by
  simp only [content, Text.inner, List.map_dropLast, List.map_tail, List.map_map]
  rfl

section
variable {blanks rest : List Char} (hblanks : AllBlank blanks) (hrest : StartsSolid rest) (hstar : rest.head? ≠ some '*')
include hblanks hrest hstar

theorem isBareStar_of_head_ne_star : isBareStar (blanks ++ rest) = false := by
  unfold isBareStar
  rw [spanBlanks_append hblanks hrest]
  split
  · rename_i hparts
    obtain ⟨-, rfl⟩ := Prod.mk.inj hparts
    exact absurd rfl hstar
  · rfl

theorem undecorate_of_head_ne_star : undecorate (blanks ++ rest) = blanks ++ rest := by
  unfold undecorate
  rw [spanBlanks_append hblanks hrest]
  split
  · rename_i hparts
    obtain ⟨-, rfl⟩ := Prod.mk.inj hparts
    exact absurd rfl hstar
  · rfl

/-- A line that is blanks and then no star is content as it stands. -/
theorem lineContent_of_head_ne_star : lineContent (blanks ++ rest) = blanks ++ rest := by
  rw [lineContent, undecorate_of_head_ne_star hblanks hrest hstar, clearBareStar,
    isBareStar_of_head_ne_star hblanks hrest hstar]
  rfl

end

theorem isBareStar_of_allBlank {blanks : List Char} (h : AllBlank blanks) : isBareStar blanks = false := by
  have hbare := isBareStar_of_head_ne_star h startsSolid_nil (by simp)
  rwa [List.append_nil] at hbare

/-! ### Comments written line by line -/

theorem content_joinLines {first last : Line} {rest : List (List Char × Line)} {ending : List Char}
    (hfirst : InLine first) (hrest : ∀ entry ∈ rest, IsBreakRun entry.1 ∧ InLine entry.2 ∧ entry.2 ≠ [])
    (hlast : IsBreakRun ending ∧ InLine last ∧ last ≠ []) :
    content (joinLines first (rest ++ [(ending, last)])) = rest.map fun entry => clearBareStar (undecorate entry.2) := by
  have hall : ∀ entry ∈ rest ++ [(ending, last)], IsBreakRun entry.1 ∧ InLine entry.2 ∧ entry.2 ≠ [] := by
    intro entry hentry
    rcases List.mem_append.mp hentry with h | h
    · exact hrest entry h
    · rw [List.mem_singleton] at h
      exact h ▸ hlast
  rw [content, lines_joinLines hfirst hall]
  simp [Text.inner]

/-- A line under its decoration. An empty line keeps the star only. -/
def decorate (indent : List Char) (line : Line) : Line :=
  if line.isEmpty then indent ++ ['*'] else indent ++ '*' :: ' ' :: line

def opening : Line := ['/', '*', '*']

def closing (indent : List Char) : Line := indent ++ ['*', '/']

/-- A doc comment with the given lines of content, each on a line of its own. -/
def layout (indent : List Char) (ls : List Line) : List Char :=
  opening ++ '\n' :: ls.flatMap (fun line => decorate indent line ++ ['\n']) ++ closing indent

theorem clearBareStar_undecorate_decorate {indent : List Char} (hblank : AllBlank indent) (hne : indent ≠ [])
    {line : Line} (hline : IsContent line) : clearBareStar (undecorate (decorate indent line)) = line := by
  rw [decorate]
  split_ifs with hempty
  · rw [List.isEmpty_iff] at hempty
    rw [undecorate_star hblank, clearBareStar, if_pos (isBareStar_star hblank hne), hempty]
  · rw [undecorate_decorated hblank hne, clearBareStar_of_isContent hline]

theorem decorate_ne_nil (indent : List Char) (line : Line) : decorate indent line ≠ [] := by
  rw [decorate]
  split_ifs <;> simp

theorem inLine_decorate {indent line : List Char} (hindent : InLine indent) (hline : InLine line) :
    InLine (decorate indent line) := by
  have hstar : isBreak '*' = false := by decide
  have hspace : isBreak ' ' = false := by decide
  rw [decorate]
  split_ifs <;> simp [hindent, hline, hstar, hspace]

theorem layout_eq_joinLines (indent : List Char) (ls : List Line) :
    layout indent ls =
      joinLines opening (ls.map (fun line => (['\n'], decorate indent line)) ++ [(['\n'], closing indent)]) := by
  have hshift : '\n' :: (ls.flatMap (fun line => decorate indent line ++ ['\n']) ++ closing indent) =
      (ls.flatMap fun line => '\n' :: decorate indent line) ++ '\n' :: closing indent := by
    induction ls with
    | nil => rfl
    | cons line ls ih =>
      simp only [List.flatMap_cons, List.append_assoc, List.cons_append, List.nil_append, ih]
  simp [layout, joinLines, List.flatMap_map, hshift]

/-- **A laid out comment has the content it was laid out with.** -/
theorem content_layout {indent : List Char} (hblank : AllBlank indent) (hindent : InLine indent) (hne : indent ≠ [])
    {ls : List Line} (hls : ∀ line ∈ ls, IsContent line) : content (layout indent ls) = ls := by
  have hfeed : IsBreakRun ['\n'] := ⟨by simp, by simp [isBreak]⟩
  rw [layout_eq_joinLines, content_joinLines (by decide), List.map_map]
  · conv_rhs => rw [← List.map_id ls]
    refine List.map_congr_left fun line hline => ?_
    exact clearBareStar_undecorate_decorate hblank hne (hls line hline)
  · intro entry hentry
    obtain ⟨line, hline, rfl⟩ := List.mem_map.mp hentry
    exact ⟨hfeed, inLine_decorate hindent (hls line hline).1, decorate_ne_nil indent line⟩
  · exact ⟨hfeed, inLine_append.mpr ⟨hindent, by decide⟩, by simp [closing]⟩

theorem isDocComment_opening (rest : List Char) : isDocComment (opening ++ rest) = true := by
  have hsolid : StartsSolid (opening ++ rest) := startsSolid_cons.mpr (by decide)
  rw [isDocComment, dropBlanks_of_startsSolid hsolid]
  rfl

theorem isDocComment_layout (indent : List Char) (ls : List Line) : isDocComment (layout indent ls) = true := by
  rw [layout_eq_joinLines, joinLines]
  exact isDocComment_opening _

/-! ### Openings -/

theorem isDocComment_iff {s : List Char} : isDocComment s = true ↔ opening <+: dropBlanks s := by
  unfold isDocComment opening
  constructor
  · intro h
    split at h
    · rename_i rest hdrop
      exact ⟨rest, hdrop.symm⟩
    · cases h
  · rintro ⟨rest, hrest⟩
    rw [← hrest]
    rfl

theorem startsSolid_of_opening {comment : List Char} (h : opening <+: comment) : StartsSolid comment := by
  obtain ⟨rest, rfl⟩ := h
  exact startsSolid_cons.mpr (by decide)

theorem head?_of_opening {comment : List Char} (h : opening <+: comment) : comment.head? = some '/' := by
  obtain ⟨rest, rfl⟩ := h
  rfl

theorem isDocComment_blanks_append {blanks comment : List Char} (hblanks : AllBlank blanks) (hcomment : opening <+: comment) :
    isDocComment (blanks ++ comment) = true := by
  rw [isDocComment_iff, dropBlanks_append hblanks (startsSolid_of_opening hcomment)]
  exact hcomment

theorem exists_opening {raw : List Char} (h : isDocComment raw = true) :
    ∃ blanks comment, raw = blanks ++ comment ∧ AllBlank blanks ∧ opening <+: comment := by
  obtain ⟨hparts, hblanks, -⟩ := spanBlanks_spec raw
  rw [isDocComment_iff, dropBlanks_eq] at h
  exact ⟨_, _, hparts.symm, hblanks, h⟩

theorem isDocComment_append {front : List Char} (h : isDocComment front = true) (back : List Char) :
    isDocComment (front ++ back) = true := by
  obtain ⟨blanks, comment, rfl, hblanks, hcomment⟩ := exists_opening h
  rw [List.append_assoc]
  exact isDocComment_blanks_append hblanks (hcomment.trans (List.prefix_append _ _))

end ApiDoc.DocComment
