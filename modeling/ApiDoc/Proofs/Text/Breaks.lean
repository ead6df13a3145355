import ApiDoc.Proofs.Text.Lines

/-!
# Line breaks

What the line breaks of a text mean to its lines: where they stand, and nothing else.

* `Rebroken` relates texts that differ in their runs of line breaks only, and `rebroken_iff` says that these are the texts with the same lines.
* `lines_append` cuts a text behind another one: the last line of the first goes on with the first line of the second.
-/

namespace ApiDoc.Text

/-! ### Other line breaks -/

/-- The second text is the first with each of its runs of line breaks replaced by some run of line breaks. -/
inductive Rebroken : List Char → List Char → Prop
  | nil : Rebroken [] []
  | kept {c : Char} {s t : List Char} (hc : isBreak c = false) (h : Rebroken s t) : Rebroken (c :: s) (c :: t)
  | breaks {b b' s t : List Char} (hb : IsBreakRun b) (hb' : IsBreakRun b') (h : Rebroken s t) :
    Rebroken (b ++ s) (b' ++ t)

theorem linesFrom_false_breakRun {b : List Char} (hb : IsBreakRun b) (s : List Char) :
    linesFrom false (b ++ s) = [] :: linesFrom true s := by
  simpa using linesFrom_breakRun inLine_nil hb s

theorem linesFrom_cons_of_not_isBreak {c : Char} (hc : isBreak c = false) (afterBreak : Bool) (s : List Char) :
    linesFrom afterBreak (c :: s) = consToFirst c (linesFrom false s) := by
  simp [linesFrom, hc]

theorem linesFrom_false_cons_of_isBreak {c : Char} (hc : isBreak c = true) (s : List Char) :
    linesFrom false (c :: s) = [] :: linesFrom true s := by
  simp [linesFrom, hc]

theorem linesFrom_true_cons_of_isBreak {c : Char} (hc : isBreak c = true) (s : List Char) :
    linesFrom true (c :: s) = linesFrom true s := by
  simp [linesFrom, hc]

theorem lines_ne_nil (s : List Char) : lines s ≠ [] := linesFrom_ne_nil false s

/-- The same lines are cut, in whatever way the text before ended. -/
theorem linesFrom_eq_of_rebroken {s t : List Char} (h : Rebroken s t) (afterBreak : Bool) :
    linesFrom afterBreak s = linesFrom afterBreak t := by
  -- a run of line breaks leaves the reader behind a break, however long it is
  induction h generalizing afterBreak with
  | nil => rfl
  | kept hc h ih =>
    rw [linesFrom_cons_of_not_isBreak hc, linesFrom_cons_of_not_isBreak hc, ih false]
  | breaks hb hb' h ih =>
    cases afterBreak with
    | true => rw [linesFrom_true_breaks hb.2, linesFrom_true_breaks hb'.2, ih true]
    | false => rw [linesFrom_false_breakRun hb, linesFrom_false_breakRun hb', ih true]

theorem lines_eq_of_rebroken {s t : List Char} (h : Rebroken s t) : lines s = lines t :=
  linesFrom_eq_of_rebroken h false

theorem exists_breakRun {c : Char} (hc : isBreak c = true) (s : List Char) :
    ∃ b t, c :: s = b ++ t ∧ IsBreakRun b ∧ (∀ d ∈ t.head?, isBreak d = false) := by
  refine ⟨(c :: s).takeWhile isBreak, (c :: s).dropWhile isBreak, List.takeWhile_append_dropWhile.symm, ⟨?_, ?_⟩, ?_⟩
  · simp [hc]
  · intro d hd
    exact List.mem_takeWhile_imp hd
  · intro d hd
    have h := List.head?_dropWhile_not isBreak (c :: s)
    rw [hd] at h
    simpa using h

theorem linesFrom_true_of_head {s : List Char} (h : ∀ c ∈ s.head?, isBreak c = false) :
    linesFrom true s = linesFrom false s := by
  cases s with
  | nil => rfl
  | cons c s =>
    have hc : isBreak c = false := h c rfl
    rw [linesFrom_cons_of_not_isBreak hc, linesFrom_cons_of_not_isBreak hc]

/-- How a text starts shows in its lines: it is empty, or starts with a character of its first line, or with a run of line breaks. -/
theorem text_cases (s : List Char) :
    s = [] ∨ (∃ c t, s = c :: t ∧ isBreak c = false ∧ lines s = consToFirst c (lines t)) ∨
      ∃ b t, s = b ++ t ∧ IsBreakRun b ∧ lines s = [] :: lines t := by
  cases s with
  | nil => exact Or.inl rfl
  | cons c s =>
    right
    cases hc : isBreak c with
    | false => exact Or.inl ⟨c, s, rfl, hc, linesFrom_cons_of_not_isBreak hc false s⟩
    | true =>
      obtain ⟨b, t, hs, hb, ht⟩ := exists_breakRun hc s
      refine Or.inr ⟨b, t, hs, hb, ?_⟩
      rw [hs, lines, linesFrom_false_breakRun hb, linesFrom_true_of_head ht, lines]

theorem eq_of_lines_eq_singleton {s : List Char} {l : Line} (h : lines s = [l]) : s = l := by
  induction s generalizing l with
  | nil => exact (List.cons.inj h).1
  | cons c s ih =>
    cases hc : isBreak c with
    | true =>
      rw [lines, linesFrom_false_cons_of_isBreak hc] at h
      exact absurd (List.cons.inj h).2 (linesFrom_ne_nil true s)
    | false =>
      rw [lines, linesFrom_cons_of_not_isBreak hc] at h
      obtain ⟨first, rest, hlines⟩ := List.exists_cons_of_ne_nil (lines_ne_nil s)
      rw [← lines, hlines, consToFirst] at h
      obtain ⟨rfl, rfl⟩ := List.cons.inj h
      rw [ih hlines]

theorem consToFirst_injective {c d : Char} {ls ms : List Line} (hls : ls ≠ []) (hms : ms ≠ [])
    (h : consToFirst c ls = consToFirst d ms) : c = d ∧ ls = ms := by
  obtain ⟨l, ls, rfl⟩ := List.exists_cons_of_ne_nil hls
  obtain ⟨m, ms, rfl⟩ := List.exists_cons_of_ne_nil hms
  simp only [consToFirst, List.cons.injEq] at h
  obtain ⟨⟨hcd, hlm⟩, hrest⟩ := h
  exact ⟨hcd, by rw [hlm, hrest]⟩

theorem consToFirst_ne_nil_cons (c : Char) (ls ms : List Line) : consToFirst c ls ≠ [] :: ms := by
  intro h
  cases ls with
  | nil => cases h
  | cons l ls => cases h

theorem exists_of_lines_eq_consToFirst {c : Char} {t : List Char} {ls : List Line} (hls : ls ≠ [])
    (h : lines t = consToFirst c ls) : ∃ t', t = c :: t' ∧ lines t' = ls := by
  rcases text_cases t with rfl | ⟨d, t', rfl, -, ht⟩ | ⟨b, t', rfl, -, ht⟩
  · exact absurd h.symm (consToFirst_ne_nil_cons c ls [])
  · obtain ⟨rfl, hlines⟩ := consToFirst_injective (lines_ne_nil t') hls (ht.symm.trans h)
    exact ⟨t', rfl, hlines⟩
  · exact absurd (h.symm.trans ht) (consToFirst_ne_nil_cons c ls (lines t'))

theorem exists_of_lines_eq_nil_cons {t : List Char} {ls : List Line} (hls : ls ≠ []) (h : lines t = [] :: ls) :
    ∃ b t', t = b ++ t' ∧ IsBreakRun b ∧ lines t' = ls := by
  rcases text_cases t with rfl | ⟨d, t', rfl, -, ht⟩ | ⟨b, t', rfl, hb, ht⟩
  · exact absurd (List.cons.inj h).2.symm hls
  · exact absurd (ht.symm.trans h) (consToFirst_ne_nil_cons d (lines t') ls)
  · exact ⟨b, t', rfl, hb, (List.cons.inj (ht.symm.trans h)).2⟩

theorem rebroken_of_lines_eq {s t : List Char} (h : lines s = lines t) : Rebroken s t := by
  induction hn : s.length using Nat.strongRecOn generalizing s t with
  | ind n ih =>
    -- how the first text starts tells how the second one does, for they have the same lines
    rcases text_cases s with rfl | ⟨c, s', rfl, hc, hs⟩ | ⟨b, s', rfl, hb, hs⟩
    · obtain rfl := eq_of_lines_eq_singleton h.symm
      exact .nil
    · obtain ⟨t', rfl, hlines⟩ := exists_of_lines_eq_consToFirst (lines_ne_nil s') (h.symm.trans hs)
      exact .kept hc (ih s'.length (by rw [← hn]; simp) hlines.symm rfl)
    · obtain ⟨b', t', rfl, hb', hlines⟩ := exists_of_lines_eq_nil_cons (lines_ne_nil s') (h.symm.trans hs)
      have hlength : s'.length < n := by
        have hpos := List.length_pos_iff.mpr hb.1
        rw [← hn, List.length_append]
        omega
      exact .breaks hb hb' (ih s'.length hlength hlines.symm rfl)

/-- **Two texts have the same lines exactly if they differ in their runs of line breaks only.** -/
theorem rebroken_iff {s t : List Char} : Rebroken s t ↔ lines s = lines t :=
  ⟨lines_eq_of_rebroken, rebroken_of_lines_eq⟩

/-! ### Lines of a text -/

theorem mem_of_mem_linesFrom {afterBreak : Bool} {s : List Char} {l : Line} {c : Char} (hl : l ∈ linesFrom afterBreak s)
    (hc : c ∈ l) : c ∈ s := by
  induction s generalizing afterBreak l with
  | nil =>
    rw [linesFrom, List.mem_singleton] at hl
    exact hl ▸ hc
  | cons d s ih =>
    rw [linesFrom] at hl
    split_ifs at hl with hbreak hafter
    · exact List.mem_cons_of_mem _ (ih hl hc)
    · rcases List.mem_cons.mp hl with rfl | hl
      · cases hc
      · exact List.mem_cons_of_mem _ (ih hl hc)
    · obtain ⟨first, rest, hlines⟩ := List.exists_cons_of_ne_nil (linesFrom_ne_nil false s)
      rw [hlines, consToFirst] at hl
      rcases List.mem_cons.mp hl with rfl | hl
      · rcases List.mem_cons.mp hc with rfl | hc
        · exact List.mem_cons_self
        · exact List.mem_cons_of_mem _ (ih (hlines ▸ List.mem_cons_self) hc)
      · exact List.mem_cons_of_mem _ (ih (hlines ▸ List.mem_cons_of_mem _ hl) hc)

theorem mem_of_mem_lines {s : List Char} {l : Line} {c : Char} (hl : l ∈ lines s) (hc : c ∈ l) : c ∈ s :=
  mem_of_mem_linesFrom hl hc

theorem prefix_of_lines_eq_cons {s : List Char} {l : Line} {ls : List Line} (h : lines s = l :: ls) : l <+: s := by
  induction s generalizing l ls with
  | nil =>
    obtain ⟨rfl, -⟩ := List.cons.inj h
    exact List.nil_prefix
  | cons c s ih =>
    cases hc : isBreak c with
    | true =>
      rw [lines, linesFrom_false_cons_of_isBreak hc] at h
      obtain ⟨rfl, -⟩ := List.cons.inj h
      exact List.nil_prefix
    | false =>
      obtain ⟨first, rest, hlines⟩ := List.exists_cons_of_ne_nil (lines_ne_nil s)
      rw [lines, linesFrom_cons_of_not_isBreak hc, ← lines, hlines, consToFirst] at h
      obtain ⟨rfl, -⟩ := List.cons.inj h
      exact List.cons_prefix_cons.mpr ⟨rfl, ih hlines⟩

theorem exists_lines_of_not_inLine {s : List Char} (h : ¬ InLine s) :
    ∃ first middle last, lines s = first :: (middle ++ [last]) := by
  obtain ⟨first, rest, hlines⟩ := List.exists_cons_of_ne_nil (lines_ne_nil s)
  have hrest : rest ≠ [] := by
    rintro rfl
    obtain rfl := eq_of_lines_eq_singleton hlines
    exact h (inLine_of_mem_lines (hlines ▸ List.mem_singleton_self _))
  exact ⟨first, rest.dropLast, rest.getLast hrest, by rw [List.dropLast_concat_getLast, hlines]⟩

theorem inner_cons_concat (first : Line) (middle : List Line) (last : Line) :
    inner (first :: (middle ++ [last])) = middle := by
  rw [inner, List.tail_cons, List.dropLast_concat]

/-! ### Texts put together -/

def putFirst (s : List Char) : List Line → List Line
  | [] => [s]
  | l :: ls => (s ++ l) :: ls

theorem consToFirst_putFirst (c : Char) (s : List Char) (ls : List Line) :
    consToFirst c (putFirst s ls) = putFirst (c :: s) ls := by
  cases ls <;> rfl

theorem putFirst_nil {ls : List Line} (h : ls ≠ []) : putFirst [] ls = ls := by
  cases ls with
  | nil => exact absurd rfl h
  | cons l ls => rfl

theorem consToFirst_append (c : Char) {ls : List Line} (h : ls ≠ []) (ms : List Line) :
    consToFirst c (ls ++ ms) = consToFirst c ls ++ ms := by
  cases ls with
  | nil => exact absurd rfl h
  | cons l ls => rfl

theorem linesFrom_append {s t : List Char} (ht : ∀ c ∈ t.head?, isBreak c = false) {afterBreak : Bool}
    {before : List Line} {last : Line} (h : linesFrom afterBreak s = before ++ [last]) :
    linesFrom afterBreak (s ++ t) = before ++ putFirst last (lines t) := by
  -- the last line is still open where the first text ends, so it is carried along to that point
  induction s generalizing afterBreak before last with
  | nil =>
    obtain ⟨rfl, hlast⟩ := List.append_eq_singleton_iff.mp (show before ++ [last] = [[]] from h.symm) |>.resolve_right
      (by simp)
    obtain rfl : last = [] := by simpa using hlast
    have hstart : linesFrom afterBreak t = lines t := by
      cases afterBreak with
      | true => exact linesFrom_true_of_head ht
      | false => rfl
    rw [List.nil_append, List.nil_append, hstart, putFirst_nil (lines_ne_nil t)]
  | cons c s ih =>
    cases hc : isBreak c with
    | true =>
      cases afterBreak with
      | true =>
        rw [linesFrom_true_cons_of_isBreak hc] at h
        rw [List.cons_append, linesFrom_true_cons_of_isBreak hc, ih h]
      | false =>
        rw [linesFrom_false_cons_of_isBreak hc] at h
        -- the line that ends here is not the last one
        cases before with
        | nil => exact absurd (List.cons.inj h).2 (linesFrom_ne_nil true s)
        | cons l before =>
          obtain ⟨rfl, hrest⟩ := List.cons.inj h
          rw [List.cons_append, linesFrom_false_cons_of_isBreak hc, ih hrest, List.cons_append]
    | false =>
      rw [linesFrom_cons_of_not_isBreak hc] at h
      rw [List.cons_append, linesFrom_cons_of_not_isBreak hc]
      obtain ⟨l, ls, hlines⟩ := List.exists_cons_of_ne_nil (linesFrom_ne_nil false s)
      rw [hlines, consToFirst] at h
      cases before with
      | nil =>
        obtain ⟨rfl, rfl⟩ := List.cons.inj h
        have hone : linesFrom false s = [] ++ [l] := hlines
        rw [ih hone, List.nil_append, consToFirst_putFirst, List.nil_append]
      | cons m before =>
        obtain ⟨rfl, rfl⟩ := List.cons.inj h
        have hmore : linesFrom false s = l :: before ++ [last] := hlines
        rw [ih hmore, consToFirst_append c (by simp)]
        rfl

/-- **Text behind other text goes on with its last line.** It must not start with a line break, which would be part of a run that may have begun before. -/
theorem lines_append {s t : List Char} (ht : ∀ c ∈ t.head?, isBreak c = false) {before : List Line} {last : Line}
    (h : lines s = before ++ [last]) : lines (s ++ t) = before ++ putFirst last (lines t) :=
  linesFrom_append ht h

theorem lines_append_of_inLine {s : List Char} (hs : InLine s) (t : List Char) :
    lines (s ++ t) = putFirst s (lines t) := by
  induction s with
  | nil => rw [List.nil_append, putFirst_nil (lines_ne_nil t)]
  | cons c s ih =>
    obtain ⟨hc, hs⟩ := inLine_cons.mp hs
    rw [List.cons_append, lines, linesFrom_cons_of_not_isBreak hc, ← lines, ih hs, consToFirst_putFirst]

end ApiDoc.Text
