import ApiDoc.Proofs.DocComment.Modes

/-!
# Where the parts of a comment stand

The lines of some content are numbered, and the numbers are carried along while the content is parsed. So it can be said of a line, and not only of a text, that it is the summary, or the first or the last line of the description.

* `summaryAt?` is the place of the summary and `describedAt` are the lines of the description with their places. `StandsAt` says that a parsed comment has these lines, and `standsAt_parseLines` that every parsed comment has.
* `summaryAt?_eq_some_iff`: the summary is the first line that counts.
* `ne_nil_of_head?_describedAt`, `ne_nil_of_getLast?_describedAt`: the description starts and ends with lines that are not empty.
-/

namespace ApiDoc.DocComment

open Text

/-! ### Numbered lines -/

/-- The lines from the summary on, as far as they count, each with its place in the content. -/
def relevantAt (ignored : Line → Bool) (content : List Line) : List (Line × Nat) :=
  (content.zipIdx.filter fun e => !ignored e.1).dropWhile fun e => e.1.isEmpty

/-- The place of the summary in the content; none when no line counts. -/
def summaryAt? (ignored : Line → Bool) (content : List Line) : Option Nat :=
  (relevantAt ignored content).head?.map Prod.snd

/-- Whether a line behind the summary stays in the description: it is no tag line and, where tags are extracted, no note. -/
def stays (note : Line → Bool) (mode : Mode) (line : Line) : Bool :=
  match mode with
  | .plain => !isTagLine line
  | .extract => !isTagLine line && !note line

/-- Numbered lines without the empty ones at both ends. -/
def trimAt (es : List (Line × Nat)) : List (Line × Nat) :=
  ((es.dropWhile fun e => e.1.isEmpty).reverse.dropWhile fun e => e.1.isEmpty).reverse

/-- The lines of the description, each with its place in the content. -/
def describedAt (ignored note : Line → Bool) (mode : Mode) (content : List Line) : List (Line × Nat) :=
  trimAt ((relevantAt ignored content).tail.filter fun e => stays note mode e.1)

/-! ### Without the numbers -/

theorem map_fst_dropWhile (es : List (Line × Nat)) :
    (es.dropWhile fun e => e.1.isEmpty).map Prod.fst = trimFront (es.map Prod.fst) := by
  unfold trimFront
  rw [List.dropWhile_map]
  rfl

theorem map_fst_filter (p : Line → Bool) (es : List (Line × Nat)) :
    (es.filter fun e => p e.1).map Prod.fst = (es.map Prod.fst).filter p := by
  rw [List.filter_map]
  rfl

theorem map_fst_trimAt (es : List (Line × Nat)) : (trimAt es).map Prod.fst = trim (es.map Prod.fst) := by
  unfold trimAt trim trimBack
  rw [List.map_reverse, map_fst_dropWhile, List.map_reverse, map_fst_dropWhile]

theorem map_fst_relevantAt (ignored : Line → Bool) (content : List Line) :
    (relevantAt ignored content).map Prod.fst = relevant ignored content := by
  unfold relevantAt relevant
  rw [map_fst_dropWhile, map_fst_filter fun line => !ignored line, List.zipIdx_map_fst]

section
variable {ignored note : Line → Bool} {mode : Mode} {content : List Line}

theorem map_fst_describedAt :
    (describedAt ignored note mode content).map Prod.fst =
      trim ((relevant ignored content).tail.filter (stays note mode)) := by
  unfold describedAt
  rw [map_fst_trimAt, map_fst_filter, List.map_tail, map_fst_relevantAt]

/-! ### Places are places in the content -/

theorem getElem?_of_mem_relevantAt {e : Line × Nat} (h : e ∈ relevantAt ignored content) : content[e.2]? = some e.1 :=
  List.mem_zipIdx_iff_getElem?.mp (List.mem_of_mem_filter ((List.dropWhile_suffix _).subset h))

theorem trimAt_sublist (es : List (Line × Nat)) : (trimAt es).Sublist es := by
  unfold trimAt
  have hdrop : ∀ fs : List (Line × Nat), (fs.dropWhile fun e => e.1.isEmpty).Sublist fs :=
    fun fs => (List.dropWhile_suffix _).sublist
  have hback := List.reverse_sublist.mpr (hdrop (es.dropWhile fun e => e.1.isEmpty).reverse)
  rw [List.reverse_reverse] at hback
  exact hback.trans (hdrop es)

theorem getElem?_of_mem_describedAt {e : Line × Nat} (h : e ∈ describedAt ignored note mode content) :
    content[e.2]? = some e.1 := by
  have hbody := List.mem_of_mem_filter ((trimAt_sublist _).subset h)
  exact getElem?_of_mem_relevantAt (List.mem_of_mem_tail hbody)

theorem ne_nil_of_head?_describedAt {e : Line × Nat} (h : (describedAt ignored note mode content).head? = some e) :
    e.1 ≠ [] := by
  have hhead := (trim_trimmed ((relevant ignored content).tail.filter (stays note mode))).1
  rw [← map_fst_describedAt, List.head?_map, h] at hhead
  exact hhead e.1 rfl

theorem ne_nil_of_getLast?_describedAt {e : Line × Nat}
    (h : (describedAt ignored note mode content).getLast? = some e) : e.1 ≠ [] := by
  have hlast := (trim_trimmed ((relevant ignored content).tail.filter (stays note mode))).2
  rw [← map_fst_describedAt, List.getLast?_map, h] at hlast
  exact hlast e.1 rfl

theorem mem_trimAt {es : List (Line × Nat)} {e : Line × Nat} (he : e ∈ es) (hne : e.1 ≠ []) : e ∈ trimAt es := by
  have hkept : ∀ fs : List (Line × Nat), e ∈ fs → e ∈ fs.dropWhile fun f => f.1.isEmpty := by
    intro fs hfs
    rw [← List.takeWhile_append_dropWhile (p := fun f : Line × Nat => f.1.isEmpty) (l := fs)] at hfs
    rcases List.mem_append.mp hfs with h | h
    · have hempty : e.1.isEmpty = true := List.mem_takeWhile_imp (p := fun f : Line × Nat => f.1.isEmpty) h
      exact absurd (List.isEmpty_iff.mp hempty) hne
    · exact h
  unfold trimAt
  exact List.mem_reverse.mpr (hkept _ (List.mem_reverse.mpr (hkept _ he)))

/-! ### The first line that counts -/

/-- Numbered lines of some content that falls into two parts: behind a line that counts, all lines count that are not ignored. -/
theorem relevantAt_append (front back : List Line) :
    relevantAt ignored (front ++ back) =
      if relevant ignored front = [] then (((back.zipIdx front.length).filter fun e => !ignored e.1).dropWhile fun e => e.1.isEmpty)
      else relevantAt ignored front ++ (back.zipIdx front.length).filter fun e => !ignored e.1 := by
  unfold relevantAt
  rw [List.zipIdx_append, List.filter_append, List.dropWhile_append, Nat.zero_add]
  have hempty : ((front.zipIdx.filter fun e => !ignored e.1).dropWhile fun e => e.1.isEmpty).isEmpty = true ↔
      relevant ignored front = [] := by
    rw [List.isEmpty_iff, ← map_fst_relevantAt, List.map_eq_nil_iff, relevantAt]
  simp only [hempty]

theorem relevant_eq_nil_iff {ls : List Line} : relevant ignored ls = [] ↔ ∀ line ∈ ls, line = [] ∨ ignored line = true := by
  unfold relevant trimFront
  rw [List.dropWhile_eq_nil_iff]
  constructor
  · intro h line hline
    cases hi : ignored line with
    | true => exact Or.inr rfl
    | false =>
      have hempty := h line (List.mem_filter.mpr ⟨hline, by simp [hi]⟩)
      exact Or.inl (List.isEmpty_iff.mp hempty)
  · intro h line hline
    obtain ⟨hmem, hi⟩ := List.mem_filter.mp hline
    rcases h line hmem with rfl | hignored
    · rfl
    · rw [hignored] at hi
      cases hi

theorem place_lt_length {e : Line × Nat} (h : e ∈ relevantAt ignored content) : e.2 < content.length :=
  (List.getElem?_eq_some_iff.mp (getElem?_of_mem_relevantAt h)).1

theorem summaryAt?_append_cons {front : List Line} {line : Line} (hfront : relevant ignored front = []) (hne : line ≠ [])
    (hkept : ignored line = false) (back : List Line) :
    summaryAt? ignored (front ++ line :: back) = some front.length := by
  unfold summaryAt?
  rw [relevantAt_append, if_pos hfront]
  simp [List.zipIdx_cons, hkept, hne]

theorem relevant_take_of_summaryAt? {i : Nat} (h : summaryAt? ignored content = some i) :
    relevant ignored (content.take i) = [] := by
  -- a line that counts among these would be the summary, and stand before its place
  by_contra hcounts
  have hfirst : (relevantAt ignored (content.take i)).head?.map Prod.snd = some i := by
    have happend := @relevantAt_append ignored (content.take i) (content.drop i)
    rw [if_neg hcounts, List.take_append_drop] at happend
    rw [summaryAt?, happend, List.head?_append] at h
    cases hhead : (relevantAt ignored (content.take i)).head? with
    | none =>
      rw [← map_fst_relevantAt, List.head?_eq_none_iff.mp hhead] at hcounts
      exact absurd rfl hcounts
    | some e => rwa [hhead] at h
  obtain ⟨e, he, rfl⟩ := Option.map_eq_some_iff.mp hfirst
  have hlt := place_lt_length (List.mem_of_head? he)
  rw [List.length_take] at hlt
  omega

/-- **The summary is the first line that is neither empty nor ignored.** -/
theorem summaryAt?_eq_some_iff {i : Nat} :
    summaryAt? ignored content = some i ↔
      ∃ line, content[i]? = some line ∧ line ≠ [] ∧ ignored line = false ∧
        ∀ l ∈ content.take i, l = [] ∨ ignored l = true := by
  constructor
  · intro h
    have hbefore := relevant_eq_nil_iff.mp (relevant_take_of_summaryAt? h)
    obtain ⟨e, he, rfl⟩ := Option.map_eq_some_iff.mp h
    have hmem : e ∈ relevantAt ignored content := List.mem_of_head? he
    have hne := head_trimFront (content.filter fun line => !ignored line) e.1
    rw [← relevant, ← map_fst_relevantAt, List.head?_map, he] at hne
    have hkept : e.1 ∈ relevant ignored content := map_fst_relevantAt ignored content ▸ List.mem_map_of_mem hmem
    exact ⟨e.1, getElem?_of_mem_relevantAt hmem, hne rfl, (mem_of_mem_relevant hkept).2, hbefore⟩
  · rintro ⟨line, hline, hne, hkept, hbefore⟩
    obtain ⟨hlt, rfl⟩ := List.getElem?_eq_some_iff.mp hline
    have hsplit : content = content.take i ++ content[i] :: content.drop (i + 1) := by simp
    have hat := summaryAt?_append_cons (relevant_eq_nil_iff.mpr hbefore) hne hkept (content.drop (i + 1))
    rw [← hsplit, List.length_take, Nat.min_eq_left hlt.le] at hat
    exact hat

/-! ### Two parts of the content -/

section
variable {front back : List Line}

theorem relevant_ne_nil_of_summaryAt? {i : Nat} (h : summaryAt? ignored (front ++ back) = some i)
    (hi : i < front.length) : relevant ignored front ≠ [] := by
  intro hfront
  obtain ⟨l, hl, hne, hkept, -⟩ := summaryAt?_eq_some_iff.mp h
  rw [List.getElem?_append_left hi] at hl
  rcases relevant_eq_nil_iff.mp hfront l (List.mem_of_getElem? hl) with hempty | hignored
  · exact hne hempty
  · rw [hignored] at hkept
    cases hkept

theorem relevant_eq_nil_iff_summaryAt? :
    relevant ignored front = [] ↔ ∀ i ∈ summaryAt? ignored (front ++ back), front.length ≤ i := by
  constructor
  · intro hfront i hi
    by_contra hlt
    exact relevant_ne_nil_of_summaryAt? hi (by omega) hfront
  · intro h
    by_contra hfront
    obtain ⟨e, rest, hrelevant⟩ : ∃ e rest, relevantAt ignored front = e :: rest := by
      refine List.exists_cons_of_ne_nil fun hnil => hfront ?_
      rw [← map_fst_relevantAt, hnil, List.map_nil]
    have hsummary : summaryAt? ignored (front ++ back) = some e.2 := by
      rw [summaryAt?, relevantAt_append, if_neg hfront, hrelevant]
      rfl
    have hmem : e ∈ relevantAt ignored front := hrelevant ▸ List.mem_cons_self
    have hlt := place_lt_length hmem
    have hle := h e.2 hsummary
    omega

theorem tail_relevantAt_append (hfront : relevant ignored front ≠ []) :
    (relevantAt ignored (front ++ back)).tail =
      (relevantAt ignored front).tail ++ (back.zipIdx front.length).filter fun e => !ignored e.1 := by
  rw [relevantAt_append, if_neg hfront, List.tail_append_of_ne_nil]
  rintro hnil
  rw [← map_fst_relevantAt, hnil] at hfront
  exact hfront rfl

theorem exists_mem_describedAt_front (back : List Line) {l : Line} (hl : l ∈ (relevant ignored front).tail)
    (hstays : stays note mode l = true) (hne : l ≠ []) :
    ∃ e ∈ describedAt ignored note mode (front ++ back), e.2 < front.length := by
  have hfront : relevant ignored front ≠ [] := by
    intro hnil
    rw [hnil] at hl
    cases hl
  rw [← map_fst_relevantAt, ← List.map_tail] at hl
  obtain ⟨e, he, rfl⟩ := List.mem_map.mp hl
  refine ⟨e, mem_trimAt (List.mem_filter.mpr ⟨?_, hstays⟩) hne, place_lt_length (List.mem_of_mem_tail he)⟩
  rw [tail_relevantAt_append hfront]
  exact List.mem_append_left _ he

theorem exists_mem_describedAt_back (hfront : relevant ignored front ≠ []) {l : Line} (hl : l ∈ back)
    (hkept : ignored l = false) (hstays : stays note mode l = true) (hne : l ≠ []) :
    ∃ e ∈ describedAt ignored note mode (front ++ back), front.length ≤ e.2 := by
  obtain ⟨i, hi⟩ := List.mem_iff_getElem?.mp hl
  have hnumbered : (l, front.length + i) ∈ back.zipIdx front.length := List.mk_add_mem_zipIdx_iff_getElem?.mpr hi
  refine ⟨(l, front.length + i), mem_trimAt (List.mem_filter.mpr ⟨?_, hstays⟩) hne, Nat.le_add_right _ _⟩
  rw [tail_relevantAt_append hfront]
  exact List.mem_append_right _ (List.mem_filter.mpr ⟨hnumbered, by simp [hkept]⟩)

end

/-! ### The parts of a parsed comment -/

/-- A parsed comment has its summary and the lines of its description from their places in the content. -/
structure StandsAt (ignored note : Line → Bool) (mode : Mode) (content : List Line) (p : Parsed) : Prop where
  summary : p.summary.toList = ((summaryAt? ignored content).bind fun i => content[i]?).getD []
  description : p.lines = (describedAt ignored note mode content).map Prod.fst

theorem lines_parseLines (hcontent : ∀ line ∈ content, IsContent line) :
    (parseLines ignored note mode content).lines = trim ((relevant ignored content).tail.filter (stays note mode)) := by
  cases mode with
  | extract => exact (normalForm_extract ignored note hcontent).lines_eq
  | plain =>
    rw [(normalForm_plain ignored note hcontent).lines_eq]
    congr 2
    funext line
    simp [stays]

theorem summary_parseLines : (parseLines ignored note mode content).summary = String.ofList ((relevant ignored content).headD []) := by
  cases mode <;> rfl

/-- **Every parsed comment has its parts from their places.** -/
theorem standsAt_parseLines (hcontent : ∀ line ∈ content, IsContent line) :
    StandsAt ignored note mode content (parseLines ignored note mode content) where
  summary := by
    rw [summary_parseLines, String.toList_ofList, ← map_fst_relevantAt, summaryAt?]
    cases h : relevantAt ignored content with
    | nil => rfl
    | cons e rest =>
      have hplace : content[e.2]? = some e.1 := getElem?_of_mem_relevantAt (h ▸ List.mem_cons_self)
      simp [hplace]
  description := by rw [lines_parseLines hcontent, map_fst_describedAt]

end

end ApiDoc.DocComment
