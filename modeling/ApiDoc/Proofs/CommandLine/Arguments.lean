import ApiDoc.CommandLine.Arguments
import ApiDoc.Proofs.Traversal

/-!
# What arguments can mean

Not every source can be named on the command line, since an argument with a dash in front may be an option. Whenever the arguments that name a source, or a source and an output, can be read at all, they mean just that (`invocation_of_source`, `invocation_of_output`): the source is no option, and the output is what follows its own option. A source with no dash in front can always be read (`parse_of_plain`).
-/

namespace ApiDoc.CommandLine

/-! ### Marks -/

variable {spellings : List (String × Flag)}

theorem exists_flag_of_mem_candidates {arg : List Char} {e : String × Mark} (h : e ∈ candidates spellings arg) :
    ∃ f isLong attached, e.2 = .flag f isLong attached := by
  obtain ⟨⟨spelling, f⟩, -, hmark⟩ := List.mem_filterMap.mp h
  dsimp only at hmark
  split_ifs at hmark
  all_goals
    obtain rfl := Option.some.inj hmark
    exact ⟨f, _, _, rfl⟩

/-- Nothing but two dashes that stand alone is a separator. -/
theorem markOf_ne_separator {arg : List Char} : markOf spellings arg ≠ .ok .separator := by
  have hguess : guess spellings arg ≠ .ok .separator := by
    rw [guess]
    split
    · rename_i spelling mark hone
      intro h
      obtain rfl := Except.ok.inj h
      obtain ⟨f, isLong, attached, hflag⟩ := exists_flag_of_mem_candidates (hone ▸ List.mem_singleton_self _)
      cases hflag
    · split <;> simp
    · simp
  rw [markOf.eq_def]
  dsimp only
  split
  · simp
  · simp
  · split
    · simp
    · split
      · simp
      · split
        · simp
        · exact hguess

theorem marks_cons_eq_ok {arg : String} {rest : List String} {ms : List (String × Mark)}
    (h : marks spellings (arg :: rest) = .ok ms) :
    (arg = "--" ∧ ms = (arg, .separator) :: rest.map fun a => (a, .plain))
      ∨ ∃ mark ms', markOf spellings arg.toList = .ok mark ∧ marks spellings rest = .ok ms' ∧ ms = (arg, mark) :: ms' := by
  rw [marks] at h
  split at h
  · rename_i hdashes
    exact .inl ⟨beq_iff_eq.mp hdashes, (Except.ok.inj h).symm⟩
  · cases hmark : markOf spellings arg.toList with
    | error options =>
      rw [hmark] at h
      cases h
    | ok mark =>
      rw [hmark] at h
      obtain ⟨ms', hms', rfl⟩ := map_eq_ok_iff.mp h
      exact .inr ⟨mark, ms', rfl, hms', rfl⟩

theorem map_fst_of_marks {args : List String} {ms : List (String × Mark)} (h : marks spellings args = .ok ms) :
    ms.map Prod.fst = args := by
  induction args generalizing ms with
  | nil => exact Except.ok.inj h ▸ rfl
  | cons arg rest ih =>
    rcases marks_cons_eq_ok h with ⟨-, rfl⟩ | ⟨mark, ms', -, hms', rfl⟩
    · rw [List.map_cons, List.map_map]
      exact congrArg (arg :: ·) (List.map_id rest)
    · rw [List.map_cons, ih hms']

/-! ### Options of a command -/

theorem tookNext_of_readAlone {f : Flag} {uses : Uses} (h : readAlone none f = .ok uses) : uses.tookNext = false := by
  rw [readAlone] at h
  split at h
  · obtain rfl := Except.ok.inj h
    rfl
  · cases h

theorem tookNext_of_readAttached {scope : Scope} {f : Flag} {isLong : Bool} {text : List Char} {uses : Uses}
    (h : readAttached scope none f isLong text = .ok uses) : uses.tookNext = false := by
  induction text generalizing f isLong uses with
  | nil =>
    rw [readAttached] at h
    split_ifs at h
    obtain rfl := Except.ok.inj h
    rfl
  | cons c rest ih =>
    rw [readAttached] at h
    split_ifs at h
    · obtain rfl := Except.ok.inj h
      rfl
    · dsimp only at h
      split at h
      · cases h
      · cases rest with
        | nil =>
          obtain ⟨uses', huses', h⟩ := bind_eq_ok_iff.mp h
          have hnext := tookNext_of_readAlone huses'
          obtain rfl := Except.ok.inj h
          exact hnext
        | cons d rest =>
          obtain ⟨uses', huses', h⟩ := bind_eq_ok_iff.mp h
          have hnext := ih huses'
          obtain rfl := Except.ok.inj h
          exact hnext

theorem tookNext_of_readFlag {scope : Scope} {f : Flag} {isLong : Bool} {attached : Option (List Char)} {uses : Uses}
    (h : readFlag scope none f isLong attached = .ok uses) : uses.tookNext = false := by
  cases attached with
  | none => exact tookNext_of_readAlone h
  | some text => exact tookNext_of_readAttached h

theorem source_of_use {c : Command} {a a' : CommandArgs} {flags : List (Flag × FlagValue)} (h : a.use c flags = .ok a') :
    a'.source = a.source := by
  fun_induction CommandArgs.use c a flags with
  | case1 => exact Except.ok.inj h ▸ rfl
  | case2 a path rest ih => exact ih h
  | case3 a value rest hvalue ih => exact ih h
  | case4 => cases h

/-! ### Arguments of a command -/

section

variable {c : Command} {a a' : CommandArgs} {arg : String} {mark : Mark}

theorem read_output {out : String} (h : a.read c false [("-o", .flag .output false none), (out, mark)] = .ok a') :
    a' = { a with output := .file out } := by
  cases mark with
  | plain => exact (Except.ok.inj h).symm
  | _ => cases h

/-- After a first argument that nothing plain follows it is the source, or there is none yet, or there is too much already. -/
theorem read_first {rest : List (String × Mark)} (hrest : nextPlain rest = none) (hseparator : startsWithSeparator rest = false)
    (h : CommandArgs.read c ⟨none, .stdout, []⟩ false ((arg, mark) :: rest) = .ok a') (hmark : mark ≠ .separator) :
    ∃ a : CommandArgs, a.read c false rest = .ok a' ∧ (a = ⟨some arg, .stdout, []⟩ ∨ a.source = none ∨ a.extras ≠ []) := by
  cases mark with
  | unknown => exact ⟨_, h, .inr (.inr (by simp))⟩
  | flag f isLong attached =>
    rw [CommandArgs.read, if_neg (by decide)] at h
    obtain ⟨uses, huses, h⟩ := bind_eq_ok_iff.mp h
    obtain ⟨a, ha, h⟩ := bind_eq_ok_iff.mp h
    rw [mapError_eq_ok_iff, hrest] at huses
    rw [tookNext_of_readFlag huses] at h
    exact ⟨a, h, .inr (.inl (source_of_use ha))⟩
  | plain =>
    rw [CommandArgs.read, if_neg (by decide)] at h
    simp only [Option.isSome_none, Bool.false_eq_true, ↓reduceIte, hseparator] at h
    exact ⟨_, h, .inl rfl⟩
  | separator => contradiction

end

theorem ofWord?_word (c : Command) : Command.ofWord? c.word = some c := by
  cases c <;> decide

/-- Arguments after the word for a command that can be read have been read as a source and where the output goes. -/
theorem exists_read_of_parse {c : Command} {args : List String} {i : Invocation}
    (h : Invocation.parse (c.word :: args) = .ok i) :
    ∃ ms source output action, marks (Scope.command c).spellings args = .ok ms
      ∧ CommandArgs.read c ⟨none, .stdout, []⟩ false ms = .ok ⟨some source, output, []⟩
      ∧ CommandArgs.action ⟨some source, output, []⟩ c = .ok action ∧ i = ⟨none, some action⟩ := by
  have hplain : markOf Scope.program.spellings c.word.toList = .ok .plain := by cases c <;> decide
  obtain ⟨ms, hms, h⟩ := bind_eq_ok_iff.mp h
  rw [marksIn, mapError_eq_ok_iff] at hms
  rcases marks_cons_eq_ok hms with ⟨hdashes, -⟩ | ⟨mark, rest, hmark, hrest, rfl⟩
  · cases c <;> exact absurd hdashes (by decide)
  obtain rfl := Except.ok.inj (hplain.symm.trans hmark)
  change ProgramArgs.command ⟨none, []⟩ c.word (rest.map Prod.fst) = .ok i at h
  rw [map_fst_of_marks hrest, ProgramArgs.command, ofWord?_word] at h
  obtain ⟨ms', hms', h⟩ := bind_eq_ok_iff.mp h
  obtain ⟨a, ha, h⟩ := bind_eq_ok_iff.mp h
  obtain ⟨action, haction, h⟩ := bind_eq_ok_iff.mp h
  rw [marksIn, mapError_eq_ok_iff] at hms'
  obtain ⟨source, output, extras⟩ := a
  cases source with
  | none => cases haction
  | some source =>
    cases extras with
    | cons arg rest => cases h
    | nil => exact ⟨ms', source, output, action, hms', ha, haction, (Except.ok.inj h).symm⟩

/-- What a command is to do with a source when nothing else is asked for. -/
def Command.action (c : Command) (source : String) : Action :=
  match c with
  | .build => .build source .stdout
  | .dump => .dump source

/-- **A source that can be read from the arguments is what the command is about.** -/
theorem invocation_of_source {c : Command} {source : String} {i : Invocation}
    (h : Invocation.parse [c.word, source] = .ok i) : i = ⟨none, some (c.action source)⟩ := by
  obtain ⟨ms, source', output, action, hms, hread, haction, rfl⟩ := exists_read_of_parse h
  rcases marks_cons_eq_ok hms with ⟨-, rfl⟩ | ⟨mark, ms, hmark, hnil, rfl⟩
  · cases hread
  obtain rfl := Except.ok.inj hnil
  have hseparator : mark ≠ .separator := fun heq => markOf_ne_separator (heq ▸ hmark)
  obtain ⟨a, ha, hcase⟩ := read_first rfl rfl hread hseparator
  obtain rfl := Except.ok.inj ha
  rcases hcase with heq | hnone | hextras
  · rw [CommandArgs.mk.injEq] at heq
    obtain ⟨hsource, rfl, -⟩ := heq
    obtain rfl := Option.some.inj hsource
    cases c with
    | build =>
      obtain rfl := Except.ok.inj haction
      rfl
    | dump =>
      obtain rfl := Except.ok.inj haction
      rfl
  · cases hnone
  · exact absurd rfl hextras

/-- **A source and an output that can be read from the arguments are built from and to.** -/
theorem invocation_of_output {source out : String} {i : Invocation} (h : Invocation.parse ["build", source, "-o", out] = .ok i) :
    i = ⟨none, some (.build source (.file out))⟩ := by
  have hflag : markOf (Scope.command .build).spellings "-o".toList = .ok (.flag .output false none) := by decide
  obtain ⟨ms, source', output, action, hms, hread, haction, rfl⟩ := exists_read_of_parse (c := .build) h
  obtain rfl := Except.ok.inj haction
  rcases marks_cons_eq_ok hms with ⟨-, rfl⟩ | ⟨mark, after, hmark, hafter, rfl⟩
  · cases hread
  rcases marks_cons_eq_ok hafter with ⟨hdashes, -⟩ | ⟨mark', last, hmark', hlast, rfl⟩
  · exact absurd hdashes (by decide)
  obtain rfl := Except.ok.inj (hflag.symm.trans hmark')
  obtain ⟨⟨out', markOut⟩, rfl, hout⟩ := List.map_eq_singleton_iff.mp (map_fst_of_marks hlast)
  dsimp only at hout
  subst hout
  have hseparator : mark ≠ .separator := fun heq => markOf_ne_separator (heq ▸ hmark)
  obtain ⟨a, ha, hcase⟩ := read_first rfl rfl hread hseparator
  have hread' := read_output ha
  rw [CommandArgs.mk.injEq] at hread'
  obtain ⟨hsource, rfl, hextras⟩ := hread'
  rcases hcase with rfl | hnone | hsome
  · rw [Option.some.inj hsource]
  · cases hsource.trans hnone
  · exact absurd hextras.symm hsome

/-! ### Sources without a dash -/

/-- An argument that is no option, whatever the options are. -/
def IsPlain (arg : String) : Prop := arg.toList.head? ≠ some '-'

instance (arg : String) : Decidable (IsPlain arg) := inferInstanceAs (Decidable (_ ≠ _))

theorem IsPlain.markOf {arg : String} (h : IsPlain arg) (spellings : List (String × Flag)) :
    markOf spellings arg.toList = .ok .plain := by
  rw [IsPlain] at h
  rw [CommandLine.markOf.eq_def]
  split
  · rfl
  · rfl
  · rename_i c _ _ hchars
    have hc : c ≠ '-' := by
      rintro rfl
      simp [hchars] at h
    simp [hc]

theorem marks_of_plain (spellings : List (String × Flag)) {args : List String} (h : ∀ arg ∈ args, IsPlain arg) :
    marks spellings args = .ok (args.map fun arg => (arg, .plain)) := by
  induction args with
  | nil => rfl
  | cons arg args ih =>
    rw [List.forall_mem_cons] at h
    have hdashes : ¬ (arg == "--") = true := by
      rw [beq_iff_eq]
      rintro rfl
      exact absurd h.1 (by decide)
    rw [marks, if_neg hdashes, h.1.markOf, ih h.2]
    rfl

theorem parse_of_plain (c : Command) {source : String} (h : IsPlain source) :
    Invocation.parse [c.word, source] = .ok ⟨none, some (c.action source)⟩ := by
  have hword : IsPlain c.word := by cases c <;> decide
  have hprogram : marks Scope.program.spellings [c.word, source] = .ok [(c.word, .plain), (source, .plain)] :=
    marks_of_plain _ (by simp [hword, h])
  have hcommand : marks (Scope.command c).spellings [source] = .ok [(source, .plain)] := marks_of_plain _ (by simp [h])
  rw [Invocation.parse, marksIn, hprogram]
  show ProgramArgs.command ⟨none, []⟩ c.word [source] = _
  rw [ProgramArgs.command, ofWord?_word]
  simp only [marksIn, hcommand]
  cases c <;> rfl

end ApiDoc.CommandLine
