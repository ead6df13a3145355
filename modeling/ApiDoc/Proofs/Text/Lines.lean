import ApiDoc.Text.Lines
import Mathlib.Data.List.TakeDrop
import Mathlib.Data.List.TakeWhile

/-!
# Blanks, words and lines

What the rest of the proofs knows about the way a text is cut.

* A run of blanks in front of other text is what `spanBlanks` and `dropBlanks` find, and a word in front of a blank is what `spanWord` finds.
* `lines_joinLines`: lines that hold no line break, joined by any runs of line breaks, are cut apart again.
* `trim` gives the lines between the first and the last one that is not empty (`trim_trimmed`, `trim_of_trimmed`), and takes nothing but empty lines away (`exists_trim`), so it may be done before or after lines are left out (`trim_filter_trim`).
-/

namespace ApiDoc.Text

/-! ### Blanks and words -/

/-- Text that stands inside one line. -/
def InLine (s : List Char) : Prop := ∀ c ∈ s, isBreak c = false

def AllBlank (s : List Char) : Prop := ∀ c ∈ s, isBlank c = true

def NoBlank (s : List Char) : Prop := ∀ c ∈ s, isBlank c = false

/-- Text whose first character, if it has one, is no blank. -/
def StartsSolid (s : List Char) : Prop := ∀ c ∈ s.head?, isBlank c = false

/-- Text whose first character, if it has one, is a blank. -/
def StartsBlank (s : List Char) : Prop := ∀ c ∈ s.head?, isBlank c = true

-- the instances are given by name, so that a test looks at the characters of the text only
instance (s : List Char) : Decidable (InLine s) := List.decidableBAll (fun c => isBreak c = false) s
instance (s : List Char) : Decidable (AllBlank s) := List.decidableBAll (fun c => isBlank c = true) s
instance (s : List Char) : Decidable (NoBlank s) := List.decidableBAll (fun c => isBlank c = false) s
instance (s : List Char) : Decidable (StartsSolid s) := Option.decidableForallMem s.head?

@[simp] theorem inLine_nil : InLine [] := by simp [InLine]

@[simp] theorem inLine_cons {c : Char} {s : List Char} : InLine (c :: s) ↔ isBreak c = false ∧ InLine s := by
  simp [InLine]

@[simp] theorem inLine_append {s t : List Char} : InLine (s ++ t) ↔ InLine s ∧ InLine t := by
  simp only [InLine, List.mem_append]
  constructor
  · intro h
    exact ⟨fun c hc => h c (Or.inl hc), fun c hc => h c (Or.inr hc)⟩
  · rintro ⟨hs, ht⟩ c (hc | hc)
    · exact hs c hc
    · exact ht c hc

@[simp] theorem startsSolid_cons {c : Char} {s : List Char} : StartsSolid (c :: s) ↔ isBlank c = false := by
  simp [StartsSolid]

@[simp] theorem startsBlank_cons {c : Char} {s : List Char} : StartsBlank (c :: s) ↔ isBlank c = true := by
  simp [StartsBlank]

theorem startsSolid_nil : StartsSolid [] := by simp [StartsSolid]

theorem startsBlank_nil : StartsBlank [] := by simp [StartsBlank]

theorem allBlank_nil : AllBlank [] := by simp [AllBlank]

theorem allBlank_space : AllBlank [' '] := by decide

theorem InLine.of_suffix {s t : List Char} (h : InLine t) (hs : s <:+ t) : InLine s := fun c hc => h c (hs.subset hc)

theorem NoBlank.inLine {s : List Char} (h : NoBlank s) : InLine s := by
  intro c hc
  by_contra hbreak
  have hblank := isBlank_of_isBreak (Bool.not_eq_false _ ▸ hbreak)
  rw [h c hc] at hblank
  exact Bool.false_ne_true hblank

theorem StartsBlank.append {s : List Char} (h : AllBlank s) (hne : s ≠ []) (t : List Char) : StartsBlank (s ++ t) := by
  obtain ⟨c, s, rfl⟩ := List.exists_cons_of_ne_nil hne
  rw [List.cons_append, startsBlank_cons]
  exact h c List.mem_cons_self

theorem span_append {p : Char → Bool} {s t : List Char} (hs : ∀ c ∈ s, p c = true)
    (ht : ∀ c ∈ t.head?, p c = false) : (s ++ t).span p = (s, t) := by
  have hnone : t.takeWhile p = [] ∧ t.dropWhile p = t := by
    cases t with
    | nil => simp
    | cons c t => simp [ht c (by simp)]
  rw [List.span_eq_takeWhile_dropWhile, List.takeWhile_append_of_pos hs, List.dropWhile_append_of_pos hs, hnone.1,
    hnone.2, List.append_nil]

theorem spanBlanks_append {s t : List Char} (hs : AllBlank s) (ht : StartsSolid t) : spanBlanks (s ++ t) = (s, t) :=
  span_append hs ht

theorem spanWord_append {s t : List Char} (hs : NoBlank s) (ht : StartsBlank t) : spanWord (s ++ t) = (s, t) :=
  span_append (fun c hc => by simp [hs c hc]) (fun c hc => by simp [ht c hc])

theorem dropBlanks_eq (s : List Char) : dropBlanks s = (spanBlanks s).2 := by
  rw [spanBlanks, List.span_eq_takeWhile_dropWhile, dropBlanks]

theorem dropBlanks_append {s t : List Char} (hs : AllBlank s) (ht : StartsSolid t) : dropBlanks (s ++ t) = t := by
  rw [dropBlanks_eq, spanBlanks_append hs ht]

theorem dropBlanks_of_startsSolid {s : List Char} (hs : StartsSolid s) : dropBlanks s = s := by
  simpa using dropBlanks_append allBlank_nil hs

theorem dropBlanks_suffix (s : List Char) : dropBlanks s <:+ s := List.dropWhile_suffix _

theorem startsSolid_dropBlanks (s : List Char) : StartsSolid (dropBlanks s) := by
  intro c hc
  rw [dropBlanks] at hc
  have h := List.head?_dropWhile_not isBlank s
  rw [hc] at h
  simpa using h

theorem spanBlanks_spec (s : List Char) :
    (spanBlanks s).1 ++ (spanBlanks s).2 = s ∧ AllBlank (spanBlanks s).1 ∧ StartsSolid (spanBlanks s).2 := by
  refine ⟨?_, ?_, ?_⟩
  · rw [spanBlanks, List.span_eq_takeWhile_dropWhile]
    exact List.takeWhile_append_dropWhile
  · intro c hc
    rw [spanBlanks, List.span_eq_takeWhile_dropWhile] at hc
    exact List.mem_takeWhile_imp hc
  · rw [← dropBlanks_eq]
    exact startsSolid_dropBlanks s

theorem spanWord_spec (s : List Char) :
    (spanWord s).1 ++ (spanWord s).2 = s ∧ NoBlank (spanWord s).1 ∧ StartsBlank (spanWord s).2 := by
  rw [spanWord, List.span_eq_takeWhile_dropWhile]
  refine ⟨List.takeWhile_append_dropWhile, ?_, ?_⟩
  · intro c hc
    simpa using List.mem_takeWhile_imp hc
  · intro c hc
    have h := List.head?_dropWhile_not (fun c => !isBlank c) s
    rw [hc] at h
    simpa using h

/-! ### Cutting a text into lines -/

/-- Lines put together, each line after the first behind its own line breaks. -/
def joinLines (first : Line) (rest : List (List Char × Line)) : List Char :=
  first ++ rest.flatMap fun entry => entry.1 ++ entry.2

theorem joinLines_cons (first : Line) (entry : List Char × Line) (rest : List (List Char × Line)) :
    joinLines first (entry :: rest) = first ++ (entry.1 ++ joinLines entry.2 rest) := by
  simp [joinLines]

def IsBreakRun (s : List Char) : Prop := s ≠ [] ∧ ∀ c ∈ s, isBreak c = true

theorem linesFrom_inLine {s : List Char} (hs : InLine s) : linesFrom false s = [s] := by
  induction s with
  | nil => rfl
  | cons c s ih =>
    obtain ⟨hc, hs⟩ := inLine_cons.mp hs
    simp [linesFrom, hc, ih hs, consToFirst]

theorem linesFrom_true_of_inLine {s : List Char} (hs : InLine s) (hne : s ≠ []) (t : List Char) :
    linesFrom true (s ++ t) = linesFrom false (s ++ t) := by
  obtain ⟨c, s, rfl⟩ := List.exists_cons_of_ne_nil hne
  simp [linesFrom, (inLine_cons.mp hs).1]

theorem linesFrom_true_breaks {s : List Char} (hs : ∀ c ∈ s, isBreak c = true) (t : List Char) :
    linesFrom true (s ++ t) = linesFrom true t := by
  induction s with
  | nil => rfl
  | cons c s ih =>
    have hc := hs c List.mem_cons_self
    have hrest := ih fun d hd => hs d (List.mem_cons_of_mem _ hd)
    simp [linesFrom, hc, hrest]

theorem linesFrom_breakRun {s b : List Char} (hs : InLine s) (hb : IsBreakRun b) (t : List Char) :
    linesFrom false (s ++ (b ++ t)) = s :: linesFrom true t := by
  induction s with
  | nil =>
    obtain ⟨c, b, rfl⟩ := List.exists_cons_of_ne_nil hb.1
    have hc := hb.2 c List.mem_cons_self
    have hrest := linesFrom_true_breaks (fun d hd => hb.2 d (List.mem_cons_of_mem _ hd)) t
    simp [linesFrom, hc, hrest]
  | cons c s ih =>
    obtain ⟨hc, hs⟩ := inLine_cons.mp hs
    simp [linesFrom, hc, ih hs, consToFirst]

/-- **Lines are cut apart where they were joined.** -/
theorem lines_joinLines {first : Line} {rest : List (List Char × Line)} (hfirst : InLine first)
    (hrest : ∀ entry ∈ rest, IsBreakRun entry.1 ∧ InLine entry.2 ∧ entry.2 ≠ []) :
    lines (joinLines first rest) = first :: rest.map Prod.snd := by
  rw [lines]
  induction rest generalizing first with
  | nil => simpa [joinLines] using linesFrom_inLine hfirst
  | cons entry rest ih =>
    obtain ⟨hbreak, hline, hne⟩ := hrest entry List.mem_cons_self
    have hlater := ih hline fun e he => hrest e (List.mem_cons_of_mem _ he)
    rw [joinLines_cons, linesFrom_breakRun hfirst hbreak, joinLines, linesFrom_true_of_inLine hline hne, ← joinLines,
      hlater, List.map_cons]

theorem linesFrom_ne_nil (afterBreak : Bool) (s : List Char) : linesFrom afterBreak s ≠ [] := by
  induction s generalizing afterBreak with
  | nil => simp [linesFrom]
  | cons c s ih =>
    rw [linesFrom]
    split_ifs
    · exact ih true
    · simp
    · cases h : linesFrom false s <;> simp [consToFirst]

theorem inLine_of_mem_linesFrom (afterBreak : Bool) {s : List Char} {l : Line} (hl : l ∈ linesFrom afterBreak s) :
    InLine l := by
  induction s generalizing afterBreak l with
  | nil =>
    rw [linesFrom, List.mem_singleton] at hl
    subst hl
    exact inLine_nil
  | cons c s ih =>
    rw [linesFrom] at hl
    split_ifs at hl with hbreak hafter
    · exact ih true hl
    · rcases List.mem_cons.mp hl with rfl | hl
      · exact inLine_nil
      · exact ih true hl
    · -- the character joins the first of the later lines
      obtain ⟨first, rest, hlines⟩ := List.exists_cons_of_ne_nil (linesFrom_ne_nil false s)
      rw [hlines, consToFirst] at hl
      rcases List.mem_cons.mp hl with rfl | hl
      · exact inLine_cons.mpr ⟨by simpa using hbreak, ih false (hlines ▸ List.mem_cons_self)⟩
      · exact ih false (hlines ▸ List.mem_cons_of_mem _ hl)

theorem inLine_of_mem_lines {s : List Char} {l : Line} (hl : l ∈ lines s) : InLine l := inLine_of_mem_linesFrom false hl

/-! ### Joining lines by line feeds -/

theorem not_mem_of_inLine {s : List Char} (hs : InLine s) : '\n' ∉ s := fun h => absurd (hs _ h) (by decide)

theorem splitOn_unlines {ls : List Line} (hls : ∀ l ∈ ls, InLine l) (hne : ls ≠ []) :
    (unlines ls).splitOn '\n' = ls :=
  List.splitOn_intercalate '\n' (fun l hl => not_mem_of_inLine (hls l hl)) hne

/-! ### Trimming -/

/-- Lines that neither begin nor end with an empty line. -/
def Trimmed (ls : List Line) : Prop := (∀ l ∈ ls.head?, l ≠ []) ∧ ∀ l ∈ ls.getLast?, l ≠ []

theorem trimFront_of_head {ls : List Line} (h : ∀ l ∈ ls.head?, l ≠ []) : trimFront ls = ls := by
  cases ls with
  | nil => rfl
  | cons l ls =>
    have hl := h l (by simp)
    simp [trimFront, hl]

theorem trimFront_append_of_empty {front ls : List Line} (h : ∀ l ∈ front, l = []) :
    trimFront (front ++ ls) = trimFront ls :=
  List.dropWhile_append_of_pos fun l hl => by simp [h l hl]

theorem trim_of_trimmed {ls : List Line} (h : Trimmed ls) : trim ls = ls := by
  rw [trim, trimFront_of_head h.1, trimBack, trimFront_of_head, List.reverse_reverse]
  intro l hl
  rw [List.head?_reverse] at hl
  exact h.2 l hl

theorem trim_append_of_empty {front ls : List Line} (h : ∀ l ∈ front, l = []) : trim (front ++ ls) = trim ls := by
  rw [trim, trimFront_append_of_empty h, trim]

theorem trimFront_suffix (ls : List Line) : trimFront ls <:+ ls := List.dropWhile_suffix _

theorem head_trimFront (ls : List Line) : ∀ l ∈ (trimFront ls).head?, l ≠ [] := by
  intro l hl
  have h := List.head?_dropWhile_not List.isEmpty ls
  rw [trimFront] at hl
  rw [hl] at h
  simpa using h

theorem isPrefix_trimBack (ls : List Line) : trimBack ls <+: ls := by
  have h := trimFront_suffix ls.reverse
  rw [← List.reverse_prefix] at h
  simpa [trimBack] using h

theorem trim_trimmed (ls : List Line) : Trimmed (trim ls) := by
  constructor
  · -- the last line that is not empty bounds the prefix that stays, so the first line stays too
    intro l hl
    obtain ⟨rest, hrest⟩ := List.head?_eq_some_iff.mp hl
    obtain ⟨more, hmore⟩ := isPrefix_trimBack (trimFront ls)
    refine head_trimFront ls l ?_
    rw [trim] at hrest
    rw [← hmore, hrest]
    simp
  · intro l hl
    rw [trim, trimBack, List.getLast?_reverse] at hl
    exact head_trimFront _ l hl

theorem trim_sublist (ls : List Line) : (trim ls).Sublist ls :=
  (isPrefix_trimBack _).sublist.trans (trimFront_suffix ls).sublist

theorem eq_nil_of_mem_dropped {ls : List Line} : ∀ l ∈ ls.takeWhile List.isEmpty, l = [] :=
  fun _ hl => List.isEmpty_iff.mp (List.mem_takeWhile_imp hl)

/-- Trimming takes nothing but empty lines away, in front and at the back. -/
theorem exists_trim (ls : List Line) :
    ∃ front back : List Line, (∀ l ∈ front, l = []) ∧ (∀ l ∈ back, l = []) ∧ ls = front ++ (trim ls ++ back) := by
  have hsplit : trimFront ls = trim ls ++ ((trimFront ls).reverse.takeWhile List.isEmpty).reverse := by
    have hreverse : (trimFront ls).reverse.takeWhile List.isEmpty ++ trimFront (trimFront ls).reverse = (trimFront ls).reverse :=
      List.takeWhile_append_dropWhile
    rw [trim, trimBack, ← List.reverse_append, hreverse, List.reverse_reverse]
  refine ⟨ls.takeWhile List.isEmpty, ((trimFront ls).reverse.takeWhile List.isEmpty).reverse, eq_nil_of_mem_dropped,
    fun l hl => ?_, ?_⟩
  · exact eq_nil_of_mem_dropped l (List.mem_reverse.mp hl)
  · rw [← hsplit, trimFront, List.takeWhile_append_dropWhile]

theorem trim_append_of_empty_back {ls back : List Line} (h : ∀ l ∈ back, l = []) : trim (ls ++ back) = trim ls := by
  have hreverse : ∀ l ∈ back.reverse, l = [] := fun l hl => h l (List.mem_reverse.mp hl)
  have hback : trimFront back = [] := by
    have hempty := @trimFront_append_of_empty back [] h
    rwa [List.append_nil] at hempty
  rw [trim, trimFront, List.dropWhile_append]
  split_ifs with hnone
  · -- no line stays on either side
    rw [List.isEmpty_iff] at hnone
    rw [← trimFront, hback, trim, trimFront, hnone]
  · rw [trimBack, List.reverse_append, trimFront_append_of_empty hreverse]
    rfl

/-- Lines that are trimmed before some of them are left out can as well be trimmed only afterwards. -/
theorem trim_filter_trim (keep : Line → Bool) (ls : List Line) : trim ((trim ls).filter keep) = trim (ls.filter keep) := by
  obtain ⟨front, back, hfront, hback, hls⟩ := exists_trim ls
  conv_rhs => rw [hls, List.filter_append, List.filter_append]
  rw [trim_append_of_empty fun l hl => hfront l (List.mem_filter.mp hl).1,
    trim_append_of_empty_back fun l hl => hback l (List.mem_filter.mp hl).1]

/-- Empty lines leave no trace where nothing but empty lines stand on one side of them. -/
theorem trim_append_empty_append {front middle back : List Line} (hmiddle : ∀ l ∈ middle, l = [])
    (h : (∀ l ∈ front, l = []) ∨ ∀ l ∈ back, l = []) : trim (front ++ (middle ++ back)) = trim (front ++ back) := by
  rcases h with hfront | hback
  · rw [trim_append_of_empty hfront, trim_append_of_empty hfront, trim_append_of_empty hmiddle]
  · have hempty : ∀ l ∈ middle ++ back, l = [] := fun l hl => (List.mem_append.mp hl).elim (hmiddle l) (hback l)
    rw [trim_append_of_empty_back hempty, trim_append_of_empty_back hback]

end ApiDoc.Text
