import ApiDoc.Proofs.Logging.OwnLevels
import ApiDoc.Proofs.Logging.Recorded

/-!
# A level given to `setup`

The level that is given to `setup` becomes the level of the package logger. A logger below it has that level too, unless there is a logger with a level of its own on the way (`level_of_setup`). Such a level comes from the configuration, which can name any logger, or was there before.
-/

namespace ApiDoc.Logging

open Yaml (Scalar Value)

variable {name other : String}

/-! ### Loading a configuration -/

theorem keeps_ensure {ε : Type} (first second other : String) :
    Keeps (fun s => s.registry.get other) (Logs.modifyRegistry fun r => (r.ensure first).ensure second : Logs ε Unit) := by
  refine Keeps.modify fun s => ?_
  dsimp only
  rw [Registry.get_ensure, Registry.get_ensure]

theorem keeps_namedSections (entries : List (Scalar × Value)) (other : String) :
    Keeps (fun s => s.registry.get other) (namedSections entries) := by
  induction entries with
  | nil => exact Keeps.pure _
  | cons e rest ih =>
    obtain ⟨key, v⟩ := e
    cases key with
    | str name =>
      have hrest : Keeps (fun s => s.registry.get other) (do return (name, v) :: (← namedSections rest)) :=
        ih.bind fun _ => Keeps.pure _
      unfold namedSections
      split
      · exact (keeps_ensure _ _ other).bind fun _ => hrest
      · exact hrest
    | _ => exact Keeps.throw _

theorem keeps_mappingOf (document : Value) (other : String) : Keeps (fun s => s.registry.get other) (mappingOf document) := by
  unfold mappingOf
  split
  · dsimp only
    split
    · exact (keeps_namedSections _ other).bind fun _ => Keeps.pure _
    · exact Keeps.throw _
  · exact Keeps.throw _

theorem keeps_load (source : LogSource) (other : String) : Keeps (fun s => s.registry.get other) source.load := by
  unfold LogSource.load LogSource.readMapping
  split
  · exact Keeps.pure _
  · refine Keeps.bind ?_ fun _ => Keeps.pure _
    refine Keeps.get.bind fun s => (keeps_lift _).bind fun path => ?_
    split
    · exact (keeps_lift _).bind fun document => keeps_mappingOf document other
    · exact (keeps_ensure _ _ other).bind fun _ => Keeps.pure _

theorem loggers_of_mappingOf {document mapping : Value} {s s' : LogState} (h : mappingOf document s = .ok mapping s') :
    ∃ sections : Keyed Value, mapping.get? "loggers" = some (.map (asEntries sections)) := by
  cases hentries : orEmpty document with
  | map entries =>
    cases hsections : orEmpty ((Value.find? (.str "loggers") entries).getD .null) with
    | map sections =>
      simp only [mappingOf, hentries, hsections] at h
      obtain ⟨named, s₁, -, h⟩ := exists_of_bind_eq_ok h
      cases h
      refine ⟨qualify named, ?_⟩
      rw [Value.get?, Yaml.find?_put_self (Yaml.sameKey_str_iff.mpr rfl)]
      rfl
    | _ =>
      simp only [mappingOf, hentries, hsections] at h
      cases h
  | _ =>
    simp only [mappingOf, hentries] at h
    cases h

theorem loggers_defaultMapping (settings : Settings) : ∃ v,
    (defaultMapping settings).get? "loggers" = some (.map (asEntries [(packageLogger, v)])) ∧
      (defaultMapping settings).get? "incremental" = none :=
  ⟨_, rfl, rfl⟩

theorem loggers_of_load {source read : LogSource} {mapping : Value} {s s' : LogState} (hnew : source.mapping = none)
    (h : source.load s = .ok (mapping, read) s') :
    read.mapping = some mapping ∧ ∃ sections : Keyed Value, mapping.get? "loggers" = some (.map (asEntries sections)) := by
  unfold LogSource.load at h
  rw [hnew] at h
  obtain ⟨mapping', s₁, hread, h⟩ := exists_of_bind_eq_ok h
  cases h
  refine ⟨rfl, ?_⟩
  unfold LogSource.readMapping at hread
  obtain ⟨logs, s₂, -, hread⟩ := exists_of_bind_eq_ok hread
  obtain ⟨path, -, hread⟩ := exists_of_lift_bind_eq_ok hread
  cases path with
  | some path =>
    obtain ⟨document, -, hread⟩ := exists_of_lift_bind_eq_ok hread
    exact loggers_of_mappingOf hread
  | none =>
    obtain ⟨u, s₃, -, hread⟩ := exists_of_bind_eq_ok hread
    cases hread
    obtain ⟨v, hloggers, -⟩ := loggers_defaultMapping source.settings
    exact ⟨_, hloggers⟩

namespace Session

/-! ### Steps of a session -/

/-- The level that a logger has of its own in a session, if it has one. -/
def ownLevel? (s : Session) (full : String) : Option Level := (s.logs.registry.get full).ownLevel?

theorem keeps_withLogs {α γ : Type} {view : LogState → γ} {change : SettingUp α} (h : Keeps view change) :
    Keeps (fun s : Session => view s.logs) (withLogs change) := by
  intro s
  have hlogs := h s.logs
  cases hs : change s.logs with
  | ok a logs =>
    rw [stateAfter_of_eq_ok hs] at hlogs
    simp only [stateAfter, withLogs, hs, hlogs]
  | error e logs =>
    rw [stateAfter_of_eq_error hs] at hlogs
    simp only [stateAfter, withLogs, hs, hlogs]

theorem keeps_log (full : String) (level : Level) (message : Message) (other : String) :
    Keeps (fun s => s.logs.registry.get other) (log full level message) := by
  have hensure : Keeps (fun s => s.registry.get other) (Logs.modifyRegistry (·.ensure full) : SettingUp Unit) :=
    Keeps.modify fun s => Registry.get_ensure _ _ _
  unfold log
  refine (keeps_withLogs hensure).bind fun _ => ?_
  refine Keeps.get.bind fun s => ?_
  exact keeps_withLogs (keeps_mapError (keeps_get (keeps_emit _) other) _)

theorem keeps_loadSettings (values : List (String × Json)) (other : String) :
    Keeps (fun s => s.logs.registry.get other) (loadSettings values) := by
  unfold loadSettings warnOfEnvFile
  refine Keeps.bind (Keeps.get.bind fun s => Keeps.forM fun line _ => keeps_log _ _ _ other) fun _ => ?_
  refine Keeps.get.bind fun s => ?_
  split
  · exact Keeps.throw _
  · exact Keeps.pure _

theorem exists_of_withLogs_eq_ok {α : Type} {change : SettingUp α} {s s' : Session} {a : α} (h : withLogs change s = .ok a s') :
    ∃ logs, change s.logs = .ok a logs ∧ s' = { s with logs } := by
  unfold withLogs at h
  split at h
  · rename_i hchange
    cases h
    exact ⟨_, hchange, rfl⟩
  · cases h

/-- Once a session is set up from a source, the loggers that its mapping does not name have lost their levels or kept them. -/
theorem exists_of_start_eq_ok {source : LogSource} {s s' : Session} (hnew : source.mapping = none) (h : start source s = .ok () s') :
    ∃ read mapping, ∃ sections : Keyed Value, s'.source = some read ∧ read.mapping = some mapping ∧
      mapping.get? "loggers" = some (.map (asEntries sections)) ∧
      ∀ other, other ∉ Keyed.keys sections → Registry.isRootName other = false →
        s'.ownLevel? other = none ∨ s'.ownLevel? other = s.ownLevel? other ∧
          (mapping.get? "incremental" = none →
            ∀ above ∈ Keyed.keys sections, above ∉ usedSettings → above ≠ "" → isNestedIn above other = false) := by
  have hstart : (withLogs source.load >>= fun found =>
      modify (fun s => { s with source := some found.2 }) >>= fun _ => withLogs (applyMapping found.1))
        { s with source := some source } = .ok () s' := h
  obtain ⟨⟨mapping, read⟩, s₁, hfound, hstart⟩ := exists_of_bind_eq_ok hstart
  obtain ⟨logs, hload, rfl⟩ := exists_of_withLogs_eq_ok hfound
  obtain ⟨u, s₂, hread, hstart⟩ := exists_of_bind_eq_ok hstart
  cases hread
  obtain ⟨logs', happly, rfl⟩ := exists_of_withLogs_eq_ok hstart
  obtain ⟨hmapping, sections, hloggers⟩ := loggers_of_load hnew hload
  refine ⟨read, mapping, sections, rfl, hmapping, hloggers, fun other hother hroot => ?_⟩
  have hsame : logs.registry.get other = s.logs.registry.get other := (keeps_load source other).of_eq_ok hload
  have hown := ownLevel?_of_configure hloggers hother hroot (of_mapError_eq_ok happly)
  dsimp only at hown
  rw [hsame] at hown
  exact hown

/-! ### The level of the package logger -/

/-- The loggers with a level for the package logger. -/
def overridden (r : Registry) (level : Level) : Registry :=
  ((r.ensure familyName).ensure packageLogger).modify packageLogger fun l => { l with level }

theorem setLevel_eq_ok {word : String} {level : Level} (h : levelOf? (String.ofList (Text.upperAll word.toList)) = some level)
    (s : Session) : setLevel word s = .ok () { s with logs := { s.logs with registry := overridden s.logs.registry level } } := by
  simp only [setLevel, h]
  rfl

theorem get_overridden_of_ne (r : Registry) (level : Level) (hne : other ≠ packageLogger)
    (hroot : Registry.isRootName other = false) : (overridden r level).get other = r.get other := by
  rw [overridden, Registry.get_modify_of_ne (f := fun l => { l with level }) (fun _ _ h => h) hne hroot]
  rw [Registry.get_ensure, Registry.get_ensure]

theorem exists_below?_overridden (r : Registry) (level : Level) :
    ∃ l, (overridden r level).below? packageLogger = some l ∧ l.level = level := by
  have hthere : (((r.ensure familyName).ensure packageLogger).below? packageLogger).isSome :=
    Registry.below?_ensure (by decide)
  obtain ⟨l, hl⟩ := Option.isSome_iff_exists.mp hthere
  refine ⟨{ l with level }, ?_, rfl⟩
  rw [overridden, Registry.below?_modify_self (f := fun l => { l with level }) (fun _ _ h => h) (by decide), hl, Option.map_some]

theorem get_opened (r : Registry) (name other : String) : (opened r name).get other = r.get other := by
  rw [opened, Registry.get_ensure, Registry.get_ensure]

theorem exists_of_setup_eq_ok {path : Option String} {word : String} {level : Level} {s s' : Session}
    (hword : levelOf? (String.ofList (Text.upperAll word.toList)) = some level) (h : setup path (some word) s = .ok () s') :
    ∃ settings s₁ s₂, loadSettings [] s = .ok settings s₁ ∧ start (.of path settings) s₁ = .ok () s₂ ∧
      s' = { s₂ with logs := { s₂.logs with registry := overridden s₂.logs.registry level } } := by
  obtain ⟨settings, s₁, hsettings, h⟩ := exists_of_bind_eq_ok h
  obtain ⟨u, s₂, hstart, h⟩ := exists_of_bind_eq_ok h
  refine ⟨settings, s₁, s₂, hsettings, hstart, ?_⟩
  have hne : word.isEmpty = false := by
    rw [Bool.eq_false_iff, ne_eq, String.isEmpty_iff]
    rintro rfl
    cases hword
  dsimp only at h
  rw [hne, if_neg Bool.false_ne_true, setLevel_eq_ok hword] at h
  cases h
  rfl

end Session

/-! ### The loggers of the package -/

theorem packageLogger_toList : packageLogger.toList = familyName.toList ++ '.' :: packageName.toList := by decide

theorem toList_fullName {name : String} (h : isPackageName name = true) :
    (fullName name).toList = familyName.toList ++ '.' :: name.toList := by
  rw [fullName_of_isPackageName h, String.toList_append, String.toList_append, List.append_assoc]
  rfl

theorem isPackageName_of_isNestedIn (h : isNestedIn packageName name = true) : isPackageName name = true :=
  isPackageName_iff.mpr (.inr (isBelow_of_isNestedIn h))

/-- The full names of loggers below the package logger are those of short names below its short name. -/
theorem isNestedIn_packageLogger_iff :
    isNestedIn packageLogger other = true ↔ ∃ name, isNestedIn packageName name = true ∧ fullName name = other := by
  constructor
  · intro h
    obtain ⟨rest, hrest, hhead⟩ := isNestedIn_iff.mp h
    have hname : (packageName ++ "." ++ String.ofList rest).toList = packageName.toList ++ '.' :: rest := by
      rw [String.toList_append, String.toList_append, List.append_assoc, @String.toList_ofList rest]
      rfl
    have hnested := isNestedIn_iff.mpr ⟨rest, hname, hhead⟩
    refine ⟨_, hnested, String.ext ?_⟩
    rw [toList_fullName (isPackageName_of_isNestedIn hnested), hname, hrest, packageLogger_toList, List.append_assoc]
    rfl
  · rintro ⟨name, hname, rfl⟩
    obtain ⟨rest, hrest, hhead⟩ := isNestedIn_iff.mp hname
    refine isNestedIn_iff.mpr ⟨rest, ?_, hhead⟩
    rw [toList_fullName (isPackageName_of_isNestedIn hname), hrest, packageLogger_toList, List.append_assoc]
    rfl

theorem isRootName_fullName (h : isNestedIn packageName name = true) : Registry.isRootName (fullName name) = false :=
  Registry.isRootName_of_isBelow (isBelow_of_isNestedIn (isNestedIn_packageLogger_iff.mpr ⟨name, h, rfl⟩))

theorem fullName_ne_packageLogger (h : isNestedIn packageName name = true) : fullName name ≠ packageLogger := by
  intro heq
  have hself := isBelow_of_isNestedIn (isNestedIn_packageLogger_iff.mpr ⟨name, h, rfl⟩)
  rw [heq, not_isBelow_self] at hself
  cases hself

theorem fullName_eq_or_isNestedIn (h : name = packageName ∨ isNestedIn packageName name = true) :
    fullName name = packageLogger ∨ isNestedIn packageLogger (fullName name) = true := by
  rcases h with rfl | hnested
  · exact .inl rfl
  · exact .inr (isNestedIn_packageLogger_iff.mpr ⟨name, hnested, rfl⟩)

namespace Session

theorem exists_below?_opened (r : Registry) (level : Level) (name : String) :
    ∃ l, (opened (overridden r level) name).below? packageLogger = some l ∧ l.level = level := by
  obtain ⟨l, hl, hlevel⟩ := exists_below?_overridden r level
  exact ⟨l, Registry.below?_ensure_of_eq_some (Registry.below?_ensure_of_eq_some hl familyName) (fullName name), hlevel⟩

section

variable {level : Level} (hset : level.rank ≠ 0) (r : Registry)
include hset

/-- The level that counts for a logger of the package that is opened after the level was set. -/
theorem effectiveLevel_opened (hname : name = packageName ∨ isNestedIn packageName name = true) :
    (opened (overridden r level) name).effectiveLevel (fullName name) =
      ((opened (overridden r level) name).levelWithin? packageLogger (fullName name)).getD level := by
  obtain ⟨l, hthere, hlevel⟩ := exists_below?_opened r level name
  refine Registry.effectiveLevel_of_nested hthere (by decide) ?_ (fullName_eq_or_isNestedIn hname)
  rw [Logger.ownLevel?, hlevel, if_neg hset]

/-- The level that counts is the given one for all loggers of the package if and only if no other level is set below the package logger. -/
theorem effectiveLevel_opened_eq_iff :
    (∀ name, name = packageName ∨ isNestedIn packageName name = true →
        (opened (overridden r level) name).effectiveLevel (fullName name) = level) ↔
      ∀ name own, isNestedIn packageName name = true →
        ((overridden r level).get (fullName name)).ownLevel? = some own → own = level := by
  constructor
  · intro hall name own hnested hown
    have hwithin := Registry.levelWithin?_of_own (r := opened (overridden r level) name)
      (isNestedIn_packageLogger_iff.mpr ⟨name, hnested, rfl⟩) (by rw [get_opened, hown])
    have heffective := hall name (.inr hnested)
    rw [effectiveLevel_opened hset r (.inr hnested), hwithin] at heffective
    exact heffective
  · intro hown name hname
    rw [effectiveLevel_opened hset r hname]
    cases hwithin : (opened (overridden r level) name).levelWithin? packageLogger (fullName name) with
    | none => rfl
    | some own =>
      obtain ⟨l, hthere, -⟩ := exists_below?_opened r level name
      obtain ⟨other, hother, hget⟩ :=
        Registry.exists_of_levelWithin? hthere (by decide) (fullName_eq_or_isNestedIn hname) hwithin
      obtain ⟨name', hname', rfl⟩ := isNestedIn_packageLogger_iff.mp hother
      rw [get_opened] at hget
      exact hown name' own hname' hget

end

/-- **A level that is given counts for every logger of the package that has no other level on its way.** After `setup` with a level other than `NOTSET`, the level of a logger of the package is the first one that it or a logger between it and the package logger has of its own, and the given one if none of them has any. So the given level counts for all loggers of the package if and only if no logger below the package logger has another one. Such a level was given to the logger by the configuration, which names it, or it was there before; then the configuration only adjusts levels, or does not name the package logger. -/
theorem level_of_setup {path : Option String} {word : String} {level : Level} {s s' : Session}
    (hword : levelOf? (String.ofList (Text.upperAll word.toList)) = some level) (hset : level.rank ≠ 0)
    (h : setup path (some word) s = .ok () s') :
    ∃ source mapping, ∃ sections : Keyed Value, s'.source = some source ∧ source.mapping = some mapping ∧
      mapping.get? "loggers" = some (.map (asEntries sections)) ∧
      (∀ name, name = packageName ∨ isNestedIn packageName name = true →
        ∃ s'', openLogger name s' = .ok (fullName name) s'' ∧ s''.logs.registry.effectiveLevel (fullName name) =
          (s''.logs.registry.levelWithin? packageLogger (fullName name)).getD level) ∧
      ((∀ name, name = packageName ∨ isNestedIn packageName name = true → ∀ s'', openLogger name s' = .ok (fullName name) s'' →
          s''.logs.registry.effectiveLevel (fullName name) = level) ↔
        ∀ name own, isNestedIn packageName name = true → s'.ownLevel? (fullName name) = some own → own = level) ∧
      ∀ name own, isNestedIn packageName name = true → s'.ownLevel? (fullName name) = some own →
        fullName name ∈ Keyed.keys sections ∨
          s.ownLevel? (fullName name) = some own ∧
            (mapping.get? "incremental" = none → packageLogger ∉ Keyed.keys sections) := by
  obtain ⟨settings, s₁, s₂, hsettings, hstart, rfl⟩ := exists_of_setup_eq_ok hword h
  obtain ⟨read, mapping, sections, hsource, hmapping, hloggers, hown⟩ := exists_of_start_eq_ok rfl hstart
  have hopen := fun name => openLogger_eq_ok (s := { s₂ with logs := { s₂.logs with registry := overridden s₂.logs.registry level } })
    (by rw [hsource, Option.isSome_some]) name
  refine ⟨read, mapping, sections, hsource, hmapping, hloggers, fun name hname => ?_, ?_, fun name own hnested hlevel => ?_⟩
  · exact ⟨_, hopen name, effectiveLevel_opened hset s₂.logs.registry hname⟩
  · refine Iff.trans ?_ (effectiveLevel_opened_eq_iff hset s₂.logs.registry)
    constructor
    · exact fun hall name hname => hall name hname _ (hopen name)
    · intro hall name hname s'' hopened
      cases (hopen name).symm.trans hopened
      exact hall name hname
  · have hroot := isRootName_fullName hnested
    have hlevel₂ : s₂.ownLevel? (fullName name) = some own := by
      rw [← hlevel, ownLevel?, ownLevel?, get_overridden_of_ne _ _ (fullName_ne_packageLogger hnested) hroot]
    have hlevel₁ : s₁.ownLevel? (fullName name) = s.ownLevel? (fullName name) :=
      congrArg Logger.ownLevel? ((keeps_loadSettings [] (fullName name)).of_eq_ok hsettings)
    by_cases hnamed : fullName name ∈ Keyed.keys sections
    · exact .inl hnamed
    · rw [← hlevel₁]
      rcases hown (fullName name) hnamed hroot with hnone | ⟨hsame, hnotBelow⟩
      · rw [hlevel₂] at hnone
        cases hnone
      · refine .inr ⟨hsame.symm.trans hlevel₂, fun hincremental hpackage => ?_⟩
        have hfalse := hnotBelow hincremental packageLogger hpackage (by decide) (by decide)
        rw [isNestedIn_packageLogger_iff.mpr ⟨name, hnested, rfl⟩] at hfalse
        cases hfalse

/-- A session that sees no files, before anything is set up. -/
def plain : Session := fresh [] [] default

theorem setup_plain : succeedsWith (fun _ s' => s'.logs.registry.loggers.all fun l => l.name == packageLogger || l.ownLevel? == none)
    (setup none (some "error")) plain = true := by
  decide +kernel

/-- A file in which the configuration names a logger below the package logger. -/
def moduleText : String :=
  "version: 1\ndisable_existing_loggers: false\nloggers:\n  phpdoc_tree.source_tree:\n    level: DEBUG\n"

/-- A session that sees that file and one in which the configuration names no logger. -/
def changingSession : Session :=
  fresh [] [(⟨0, ["logging.yml"]⟩, .file moduleText.toUTF8.toList),
    (⟨0, ["bare.yml"]⟩, .file "version: 1\ndisable_existing_loggers: false\n".toUTF8.toList)] default

/-- The configuration that a session was set up from names no logger. -/
def namesNoLogger (s : Session) : Bool :=
  match s.source.bind (·.mapping) with
  | some mapping =>
    match mapping.get? "loggers" with
    | some (.map []) => true
    | _ => false
  | none => false

theorem setup_changingSession : succeedsWith
    (fun _ s' => s'.ownLevel? (fullName "phpdoc_tree.source_tree") == some (.number 10) && succeedsWith
      (fun _ s'' => s''.ownLevel? (fullName "phpdoc_tree.source_tree") == some (.number 10) && s''.namesNoLogger)
      (setup (some "bare.yml") (some "error")) s')
    (setup (some "logging.yml") (some "error")) changingSession = true := by
  decide +kernel

theorem sections_of_namesNoLogger {s : Session} {source : LogSource} {mapping : Value} {sections : Keyed Value}
    (h : s.namesNoLogger = true) (hsource : s.source = some source) (hmapping : source.mapping = some mapping)
    (hloggers : mapping.get? "loggers" = some (.map (asEntries sections))) : sections = [] := by
  simp only [namesNoLogger, hsource, Option.bind_some, hmapping, hloggers] at h
  split at h
  · rename_i hnone
    exact List.map_eq_nil_iff.mp (Value.map.inj (Option.some.inj hnone))
  · cases h

/-- Under the default settings a level that is given counts for every logger of the package. It does not once a file has named a logger below the package logger, and the level from there stays when the next file names no logger. -/
theorem level_plain :
    (∃ s', setup none (some "error") plain = .ok () s' ∧
      ∀ name, name = packageName ∨ isNestedIn packageName name = true → ∀ s'', openLogger name s' = .ok (fullName name) s'' →
        s''.logs.registry.effectiveLevel (fullName name) = .number 40) ∧
    ∃ s' s'', setup (some "logging.yml") (some "error") changingSession = .ok () s' ∧
      setup (some "bare.yml") (some "error") s' = .ok () s'' ∧
      (∃ source mapping, ∃ sections : Keyed Value, s'.source = some source ∧ source.mapping = some mapping ∧
        mapping.get? "loggers" = some (.map (asEntries sections)) ∧
        fullName "phpdoc_tree.source_tree" ∈ Keyed.keys sections) ∧
      (¬ ∀ name, name = packageName ∨ isNestedIn packageName name = true → ∀ r, openLogger name s' = .ok (fullName name) r →
        r.logs.registry.effectiveLevel (fullName name) = .number 40) ∧
      ∃ source mapping, ∃ sections : Keyed Value, s''.source = some source ∧ source.mapping = some mapping ∧
        mapping.get? "loggers" = some (.map (asEntries sections)) ∧
        s'.ownLevel? (fullName "phpdoc_tree.source_tree") = some (.number 10) ∧
        (mapping.get? "incremental" = none → packageLogger ∉ Keyed.keys sections) := by
  have hword : levelOf? (String.ofList (Text.upperAll "error".toList)) = some (.number 40) := by decide +kernel
  have hnested : isNestedIn packageName "phpdoc_tree.source_tree" = true := by decide +kernel
  constructor
  · obtain ⟨u, s', hsetup, hlevels⟩ := exists_of_succeedsWith setup_plain
    obtain ⟨source, mapping, sections, -, -, -, -, hall, -⟩ := level_of_setup hword (by decide) hsetup
    refine ⟨s', hsetup, hall.mpr fun name own hnested hown => ?_⟩
    -- only the package logger has a level of its own
    have hroot := isRootName_fullName hnested
    have hlevel := List.all_eq_true.mp hlevels _ (Registry.mem_of_ownLevel? hroot hown)
    rw [Bool.or_eq_true, beq_iff_eq, beq_iff_eq, Registry.name_get _ hroot] at hlevel
    rcases hlevel with hpackage | hnone
    · exact absurd hpackage (fullName_ne_packageLogger hnested)
    · cases hnone.symm.trans hown
  · obtain ⟨u, s', hfirst, hrest⟩ := exists_of_succeedsWith setup_changingSession
    rw [Bool.and_eq_true, beq_iff_eq] at hrest
    obtain ⟨hown, hrest⟩ := hrest
    obtain ⟨u, s'', hsecond, hbare⟩ := exists_of_succeedsWith hrest
    rw [Bool.and_eq_true, beq_iff_eq] at hbare
    obtain ⟨hstays, hbare⟩ := hbare
    obtain ⟨source, mapping, sections, hsource, hmapping, hloggers, -, hall, horigin⟩ :=
      level_of_setup hword (by decide) hfirst
    obtain ⟨source', mapping', sections', hsource', hmapping', hloggers', -, -, horigin'⟩ :=
      level_of_setup hword (by decide) hsecond
    have hfresh : changingSession.ownLevel? (fullName "phpdoc_tree.source_tree") = none := by decide +kernel
    refine ⟨s', s'', hfirst, hsecond, ⟨source, mapping, sections, hsource, hmapping, hloggers, ?_⟩, fun hgiven => ?_,
      source', mapping', sections', hsource', hmapping', hloggers', ?_⟩
    · rcases horigin _ _ hnested hown with hnamed | ⟨hbefore, -⟩
      · exact hnamed
      · cases hfresh.symm.trans hbefore
    · cases hall.mp hgiven _ _ hnested hown
    · rcases horigin' _ _ hnested hstays with hnamed | hbefore
      · obtain rfl := sections_of_namesNoLogger hbare hsource' hmapping' hloggers'
        cases hnamed
      · exact hbefore

theorem effectiveLevel_changingSession : succeedsWith
    (fun _ s' => succeedsWith (fun full s'' => full == fullName loaderName && s''.logs.registry.effectiveLevel full == .number 10)
      (openLogger loaderName) s')
    (setup (some "logging.yml") (some "ERROR")) changingSession = true := by
  decide +kernel

theorem not_always_overridden : ¬ ∀ files path word level s' name s'',
    levelOf? (String.ofList (Text.upperAll word.toList)) = some level →
      setup (some path) (some word) (fresh [] files default) = .ok () s' → isPackageName name = true →
        openLogger name s' = .ok (fullName name) s'' → s''.logs.registry.effectiveLevel (fullName name) = level := by
  intro hall
  obtain ⟨u, s', hsetup, hopen⟩ := exists_of_succeedsWith effectiveLevel_changingSession
  obtain ⟨full, s'', hopen, hlevel⟩ := exists_of_succeedsWith hopen
  rw [Bool.and_eq_true, beq_iff_eq, beq_iff_eq] at hlevel
  obtain ⟨rfl, hlevel⟩ := hlevel
  have hgiven := hall _ "logging.yml" "ERROR" (.number 40) s' loaderName s'' (by decide +kernel) hsetup (by decide +kernel) hopen
  rw [hlevel] at hgiven
  cases hgiven

end Session

end ApiDoc.Logging
