import Mathlib.Data.List.Find
import ApiDoc.Proofs.Logging.Names
import ApiDoc.Proofs.Logging.Quiet

/-!
# Lines of loggers

A search for the parents of a logger goes through the dots of its name from the right. Where it meets a logger that is there, it goes on from that one, so every line of loggers from below some logger runs through it (`parentsFrom_append`), and the level that counts is the first one on the way there, or else the level of that logger (`effectiveLevel_of_nested`).
-/

namespace ApiDoc.Logging

variable {above name other : String} {l : Logger}

/-- Whether a name lies below another one and has no second dot there. Of two dots side by side the search for parents takes only the right one, so that it can miss a logger in front of two. -/
def isNestedIn (above name : String) : Bool := isBelow above name && !isBelow (above ++ ".") name

theorem isNestedIn_iff :
    isNestedIn above name = true ↔ ∃ rest, name.toList = above.toList ++ '.' :: rest ∧ rest.head? ≠ some '.' := by
  rw [isNestedIn, Bool.and_eq_true, Bool.not_eq_true', isBelow_iff, Bool.eq_false_iff, ne_eq, isBelow_iff]
  constructor
  · rintro ⟨⟨rest, hrest⟩, hdots⟩
    refine ⟨rest, hrest, fun hhead => hdots ?_⟩
    obtain ⟨rest', rfl⟩ := List.head?_eq_some_iff.mp hhead
    exact ⟨rest', by rw [hrest, String.toList_append, List.append_assoc]; rfl⟩
  · rintro ⟨rest, hrest, hhead⟩
    refine ⟨⟨rest, hrest⟩, ?_⟩
    rintro ⟨rest', hrest'⟩
    rw [hrest, String.toList_append, List.append_assoc] at hrest'
    have hcons : '.' :: rest = '.' :: '.' :: rest' := List.append_cancel_left hrest'
    rw [(List.cons.inj hcons).2] at hhead
    exact hhead rfl

theorem isBelow_of_isNestedIn (h : isNestedIn above name = true) : isBelow above name = true :=
  (Bool.and_eq_true_iff.mp h).1

theorem not_isBelow_self (above : String) : isBelow above above = false := by
  rw [Bool.eq_false_iff]
  intro h
  obtain ⟨rest, hrest⟩ := isBelow_iff.mp h
  have hlength := congrArg List.length hrest
  simp at hlength

/-! ### Levels of their own -/

/-- The level that a logger has of its own, if it has one. -/
def Logger.ownLevel? (l : Logger) : Option Level := if l.level.rank = 0 then none else some l.level

theorem Logger.ownLevel?_of_unset (h : l.level = .unset) : l.ownLevel? = none := by
  rw [ownLevel?, h]
  rfl

theorem Logger.ownLevel?_congr {l' : Logger} (h : l.level = l'.level) : l.ownLevel? = l'.ownLevel? := by
  rw [ownLevel?, h, ownLevel?]

namespace Registry

variable {r : Registry}

theorem firstLevel_eq (ls : List Logger) : firstLevel ls = (ls.findSome? Logger.ownLevel?).getD .unset := by
  induction ls with
  | nil => rfl
  | cons l ls ih =>
    rw [firstLevel, List.findSome?_cons, ih, Logger.ownLevel?]
    by_cases h : l.level.rank = 0 <;> simp [h]

/-- A level in front of a line counts, then the level of a logger that has one, whatever comes behind it. -/
theorem firstLevel_append {lower : List Logger} (upper : List Logger) {level : Level} (h : l.ownLevel? = some level) :
    firstLevel (lower ++ l :: upper) = (lower.findSome? Logger.ownLevel?).getD level := by
  rw [firstLevel_eq, List.findSome?_append, List.findSome?_cons, h]
  cases lower.findSome? Logger.ownLevel? <;> rfl

/-! ### Loggers by name -/

theorem name_of_below? (h : r.below? name = some l) : l.name = name := by
  rw [below?] at h
  have hname := List.find?_some h
  simpa using hname

theorem get_of_below? (h : r.below? name = some l) (hroot : isRootName name = false) : r.get name = l := by
  rw [get, hroot, h]
  rfl

theorem mem_of_ownLevel? {own : Level} (hroot : isRootName name = false) (h : (r.get name).ownLevel? = some own) :
    r.get name ∈ r.loggers := by
  cases hbelow : r.below? name with
  | none =>
    rw [get, hroot, hbelow] at h
    cases h
  | some l =>
    rw [get_of_below? hbelow hroot]
    exact List.mem_of_find?_eq_some hbelow

theorem get_ensure (r : Registry) (name other : String) : (r.ensure name).get other = r.get other := by
  rw [ensure]
  split
  · rfl
  · rw [get, get, below?, below?, List.find?_append]
    cases r.loggers.find? fun l => l.name == other with
    | some l => rfl
    | none =>
      by_cases h : name = other
      · subst h
        simp [Logger.new]
      · simp [Logger.new, h]

theorem below?_ensure_of_eq_some (h : r.below? other = some l) (name : String) : (r.ensure name).below? other = some l := by
  rw [ensure]
  split
  · exact h
  · rw [below?] at h
    rw [below?, List.find?_append, h]
    rfl

theorem below?_map {f : Logger → Logger} (hf : ∀ l ∈ r.loggers, (f l).name = l.name) (name : String) :
    ({ r with loggers := r.loggers.map f }).below? name = (r.below? name).map f := by
  rw [below?, below?, List.find?_map]
  congr 1
  refine List.find?_congr fun l hl => ?_
  rw [Function.comp_apply, hf l hl]

section

variable {f : Logger → Logger} (hf : isRootName name = false → ∀ l, l.name = name → (f l).name = name)
include hf

theorem name_modified (hroot : isRootName name = false) (l : Logger) : (if l.name == name then f l else l).name = l.name := by
  split
  · rename_i hname
    rw [beq_iff_eq] at hname
    rw [hf hroot l hname, hname]
  · rfl

theorem below?_modify_self (hroot : isRootName name = false) : (r.modify name f).below? name = (r.below? name).map f := by
  rw [modify, hroot, if_neg Bool.false_ne_true, below?_map fun l _ => name_modified hf hroot l]
  cases h : r.below? name with
  | none => rfl
  | some l => rw [Option.map_some, Option.map_some, name_of_below? h, beq_self_eq_true, if_pos rfl]

theorem get_modify_of_ne (hne : other ≠ name) (hroot : isRootName other = false) : (r.modify name f).get other = r.get other := by
  rw [modify]
  split
  · rw [get, get, hroot]
    rfl
  · rename_i hname
    rw [Bool.not_eq_true] at hname
    rw [get, get, hroot, below?_map fun l _ => name_modified hf hname l]
    cases h : r.below? other with
    | none => rfl
    | some l =>
      have hother : (l.name == name) = false := by
        rw [name_of_below? h]
        simpa using hne
      rw [Option.map_some, hother]
      rfl

end

/-! ### Lines -/

theorem getLast?_ne_of_cons {c d : Char} {rest : List Char} (h : (c :: rest).getLast? ≠ some d) : rest.getLast? ≠ some d := by
  cases rest with
  | nil => simp
  | cons e rest => rwa [List.getLast?_cons_cons] at h

theorem mem_prefixesOf (habove : above ≠ "") (skip : Bool) (rest : List Char) (hskip : rest = [] → skip = false)
    (hdots : rest.getLast? ≠ some '.') : above ∈ prefixesOf skip (rest ++ '.' :: above.toList.reverse) := by
  -- the name is gone through from the right; `skip` says that the character before was a dot
  induction rest generalizing skip with
  | nil =>
    have hne : above.toList.reverse.isEmpty = false := by simpa using habove
    simp [hskip rfl, prefixesOf, hne]
  | cons c rest ih =>
    have hrest := getLast?_ne_of_cons hdots
    rw [List.cons_append, prefixesOf]
    split
    · rename_i hdot
      refine List.mem_cons_of_mem _ (ih true (fun hnil => ?_) hrest)
      rw [Bool.and_eq_true, Bool.and_eq_true, beq_iff_eq] at hdot
      rw [hnil, hdot.1.2] at hdots
      exact absurd rfl hdots
    · exact ih false (fun _ => rfl) hrest

theorem mem_namesAbove (habove : above ≠ "") (h : isNestedIn above name = true) : above ∈ namesAbove name := by
  obtain ⟨rest, hrest, hhead⟩ := isNestedIn_iff.mp h
  have hreverse : name.toList.reverse = rest.reverse ++ '.' :: above.toList.reverse := by simp [hrest]
  rw [namesAbove, hreverse]
  exact mem_prefixesOf habove false rest.reverse (fun _ => rfl) (by rwa [List.getLast?_reverse])

/-- The line of loggers from below a logger runs through it. -/
theorem parentsFrom_append (hthere : r.below? above = some l) (hroot : isRootName above = false) (skip : Bool) (rest : List Char)
    (hskip : rest = [] → skip = false) (hdots : rest.getLast? ≠ some '.') :
    ∃ lower, r.parentsFrom skip (rest ++ '.' :: above.toList.reverse) = lower ++ l :: r.parentsFrom false above.toList.reverse ∧
      ∀ l' ∈ lower, isNestedIn above l'.name = true ∧ r.below? l'.name = some l' := by
  induction rest generalizing skip with
  | nil =>
    refine ⟨[], ?_, by simp⟩
    have hname : String.ofList above.toList.reverse.reverse = above := by rw [List.reverse_reverse, String.ofList_toList]
    have hne : above.toList.reverse.isEmpty = false := by
      rw [Bool.eq_false_iff, ne_eq, List.isEmpty_iff, List.reverse_eq_nil_iff, String.toList_eq_nil_iff]
      rintro rfl
      cases hroot
    simp only [List.nil_append, hskip rfl, parentsFrom, hname, hthere, hne]
    rfl
  | cons c rest ih =>
    have hrest := getLast?_ne_of_cons hdots
    rw [List.cons_append, parentsFrom]
    split
    · rename_i hdot
      have hc : c = '.' := by
        rw [Bool.and_eq_true, Bool.and_eq_true, beq_iff_eq] at hdot
        exact hdot.1.2
      -- the dot is not the one right behind the name above
      have hne : rest ≠ [] := by
        rintro rfl
        simp [hc] at hdots
      split
      · rename_i l' hl'
        obtain ⟨lower, hlower, hall⟩ := ih false (fun _ => rfl) hrest
        refine ⟨l' :: lower, by rw [hlower, List.cons_append], ?_⟩
        rw [List.forall_mem_cons]
        refine ⟨?_, hall⟩
        rw [name_of_below? hl']
        refine ⟨isNestedIn_iff.mpr ⟨rest.reverse, ?_, ?_⟩, hl'⟩
        · simp
        · rwa [List.head?_reverse]
      · exact ih true (fun h => absurd h hne) hrest
    · exact ih false (fun _ => rfl) hrest

/-- The nearest level of its own in the line of loggers from a name to another one that it lies below. -/
def levelWithin? (r : Registry) (above name : String) : Option Level :=
  ((r.lineage name).takeWhile fun l => isBelow above l.name).findSome? Logger.ownLevel?

theorem isRootName_of_isBelow (h : isBelow above name = true) : isRootName name = false := by
  obtain ⟨rest, hrest⟩ := isBelow_iff.mp h
  have hdot : '.' ∈ name.toList := by
    rw [hrest]
    exact List.mem_append_right _ List.mem_cons_self
  rw [isRootName, Bool.or_eq_false_iff, beq_eq_false_iff_ne, beq_eq_false_iff_ne]
  constructor
  · rintro rfl
    cases hdot
  · rintro rfl
    revert hdot
    decide

theorem takeWhile_lineage {lower upper : List Logger} (hthere : r.below? above = some l)
    (hline : r.lineage name = lower ++ l :: upper)
    (hlower : ∀ l' ∈ lower, isNestedIn above l'.name = true) :
    (r.lineage name).takeWhile (fun l => isBelow above l.name) = lower := by
  rw [hline, List.takeWhile_append_of_pos fun l' hl' => isBelow_of_isNestedIn (hlower l' hl')]
  rw [List.takeWhile_cons_of_neg, List.append_nil]
  rw [name_of_below? hthere, not_isBelow_self]
  exact Bool.false_ne_true

section

variable (hthere : r.below? above = some l) (hroot : isRootName above = false)
include hthere hroot

theorem lineage_eq (hname : name = above ∨ isNestedIn above name = true) :
    ∃ lower upper, r.lineage name = lower ++ l :: upper ∧
      ∀ l' ∈ lower, isNestedIn above l'.name = true ∧ r.get l'.name = l' := by
  rcases hname with rfl | hnested
  · refine ⟨[], r.parentsFrom false name.toList.reverse ++ [r.root], ?_, by simp⟩
    rw [lineage, hroot, get_of_below? hthere hroot]
    rfl
  · have hname := isRootName_of_isBelow (isBelow_of_isNestedIn hnested)
    obtain ⟨rest, hrest, hhead⟩ := isNestedIn_iff.mp hnested
    obtain ⟨lower, hlower, hall⟩ :=
      parentsFrom_append hthere hroot false rest.reverse (fun _ => rfl) (by rwa [List.getLast?_reverse])
    refine ⟨r.get name :: lower, r.parentsFrom false above.toList.reverse ++ [r.root], ?_, ?_⟩
    · have hreverse : name.toList.reverse = rest.reverse ++ '.' :: above.toList.reverse := by simp [hrest]
      rw [lineage, hname, hreverse, hlower]
      simp
    · rw [List.forall_mem_cons, name_get r hname]
      refine ⟨⟨hnested, rfl⟩, fun l' hl' => ?_⟩
      obtain ⟨hbelow, hget⟩ := hall l' hl'
      exact ⟨hbelow, get_of_below? hget (isRootName_of_isBelow (isBelow_of_isNestedIn hbelow))⟩

/-- **What counts is the nearest level on the way to a logger that has one, or else the level of that logger.** -/
theorem effectiveLevel_of_nested {level : Level} (hlevel : l.ownLevel? = some level)
    (hname : name = above ∨ isNestedIn above name = true) : r.effectiveLevel name = (r.levelWithin? above name).getD level := by
  obtain ⟨lower, upper, hline, hlower⟩ := lineage_eq hthere hroot hname
  rw [levelWithin?, takeWhile_lineage hthere hline fun l' hl' => (hlower l' hl').1, effectiveLevel, hline]
  exact firstLevel_append upper hlevel

theorem exists_of_levelWithin? {own : Level} (hname : name = above ∨ isNestedIn above name = true)
    (h : r.levelWithin? above name = some own) :
    ∃ other, isNestedIn above other = true ∧ (r.get other).ownLevel? = some own := by
  obtain ⟨lower, upper, hline, hlower⟩ := lineage_eq hthere hroot hname
  rw [levelWithin?, takeWhile_lineage hthere hline fun l' hl' => (hlower l' hl').1] at h
  obtain ⟨l', hl', hown⟩ := List.exists_of_findSome?_eq_some h
  obtain ⟨hnested, hget⟩ := hlower l' hl'
  exact ⟨l'.name, hnested, by rw [hget, hown]⟩

end

theorem levelWithin?_of_own {own : Level} (hname : isNestedIn above name = true)
    (h : (r.get name).ownLevel? = some own) : r.levelWithin? above name = some own := by
  have hbelow := isBelow_of_isNestedIn hname
  have hroot := isRootName_of_isBelow hbelow
  rw [levelWithin?, lineage, hroot, if_neg Bool.false_ne_true, List.cons_append, List.takeWhile_cons_of_pos]
  · rw [List.findSome?_cons, h]
  · rw [name_get r hroot, hbelow]

end Registry

end ApiDoc.Logging
