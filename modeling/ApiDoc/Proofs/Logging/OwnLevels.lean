import ApiDoc.Proofs.Logging.Frame
import ApiDoc.Proofs.Logging.Lineage
import ApiDoc.Proofs.Logging.Sections

/-!
# Levels of loggers that a configuration does not name

Applying a configuration sets the levels of the loggers that it names. Any other logger keeps its level or loses it (`ownLevel?_of_configure`), and it loses it for certain if it lies below a named one, unless only levels are adjusted (`ownLevel?_of_configure_above`).
-/

namespace ApiDoc.Logging

open Yaml (Scalar Value)

variable {α γ ε : Type} {name other : String}

theorem keeps_get {step : Logs ε α} (h : Keeps LogState.allLoggers step) (other : String) :
    Keeps (fun s => s.registry.get other) step :=
  h.comp fun ls => (Registry.mk ls.1 ls.2 [] [] []).get other

/-! ### One logger -/

theorem name_replaceHandlers (s : Section) (l : Logger) : (replaceHandlers s l).1.name = l.name := by
  unfold replaceHandlers
  split
  · rfl
  · dsimp only
    split
    · rfl
    · split <;> rfl

theorem name_settle (levelsOnly : Bool) (s : Section) (l : Logger) : (settle levelsOnly s l).1.name = l.name := by
  unfold settle
  split
  · rfl
  · split
    · rfl
    · dsimp only
      split
      · rfl
      · exact name_replaceHandlers s _

theorem keeps_configureLogger (hne : other ≠ name) (hroot : Registry.isRootName other = false) (levelsOnly : Bool)
    (s : Option Section) : Keeps (fun s => s.registry.get other) (configureLogger levelsOnly name s) := by
  have hmodify : ∀ f : Logger → Logger, (Registry.isRootName name = false → ∀ l, l.name = name → (f l).name = name) →
      Keeps (fun s => s.registry.get other) (Logs.modifyRegistry (·.modify name f) : Configuring Unit) :=
    fun f hf => Keeps.modify fun s => Registry.get_modify_of_ne hf hne hroot
  unfold configureLogger
  apply Keeps.bind
  · exact Keeps.modify fun s => Registry.get_ensure _ _ _
  intro _
  cases s with
  | none => exact Keeps.throw _
  | some s =>
    refine Keeps.get.bind fun logs => ?_
    have hname := name_settle levelsOnly s (logs.registry.get name)
    cases hsettle : settle levelsOnly s (logs.registry.get name) with
    | mk l ok =>
      rw [hsettle] at hname
      dsimp only
      apply Keeps.bind
      · exact hmodify _ fun hroot l _ => hname.trans (Registry.name_get _ hroot)
      intro _
      refine Keeps.guarded ?_
      apply Keeps.bind
      · exact hmodify _ fun _ _ hname => hname
      intro _
      split
      · exact Keeps.throw _
      · exact Keeps.pure _
      · exact hmodify _ fun _ _ hname => hname

theorem keeps_configureRoot (hroot : Registry.isRootName other = false) (levelsOnly : Bool) (config : ConfigItem) :
    Keeps (fun s => s.registry.get other) (configureRoot levelsOnly config) := by
  have hmodify : ∀ l : Logger, Keeps (fun s => s.registry.get other)
      (Logs.modifyRegistry fun r => { r with root := l } : Configuring Unit) := by
    refine fun l => Keeps.modify fun s => ?_
    rw [Registry.get, Registry.get, hroot]
    rfl
  unfold configureRoot
  refine (keeps_lift _).bind fun found => ?_
  split
  · exact Keeps.pure _
  · split
    · exact Keeps.pure _
    · split
      · rename_i s _
        refine Keeps.get.bind fun logs => ?_
        cases settle levelsOnly s logs.registry.root with
        | mk l ok =>
          dsimp only
          apply Keeps.bind
          · exact hmodify _
          intro _
          split
          · exact Keeps.throw _
          · exact Keeps.pure _
      · exact Keeps.throw _

/-! ### All loggers of a configuration -/

def configureKey (levelsOnly : Bool) (config : ConfigItem) (sections : List (Scalar × ConfigItem)) (key : ConfigItem) :
    Configuring String := do
  configureLogger levelsOnly key.value.display (partOf? config ⟨.map sections, [.str "loggers"]⟩ key)
  return key.value.display

theorem configureLoggers_eq {config : ConfigItem} {sections : List (Scalar × ConfigItem)}
    (h : config.get? "loggers" = some (.map sections)) (levelsOnly : Bool) :
    configureLoggers levelsOnly config =
      (sections.map fun e => ConfigItem.scalar e.1).mapM (configureKey levelsOnly config sections) := by
  have hsection : sectionOf config "loggers" = .ok ⟨.map sections, [.str "loggers"]⟩ := by
    simp only [sectionOf, topSetting, h]
    rfl
  simp only [configureLoggers, hsection]
  rfl

section

variable {names : List String} {config : ConfigItem} (h : HasLoggers names config)
include h

theorem configured_of_hasLoggers {configured : List String} {levelsOnly : Bool} {s s' : LogState}
    (hconfigure : configureLoggers levelsOnly config s = .ok configured s') :
    (∀ name ∈ configured, name ∈ names) ∧ ∀ name ∈ names, name ∉ usedSettings → name ∈ configured := by
  obtain ⟨sections, hget, hkeys, hmem⟩ := h
  rw [configureLoggers_eq hget] at hconfigure
  have hconfigured : configured = (sections.map fun e => ConfigItem.scalar e.1).map fun key => key.value.display := by
    refine eq_map_of_mapM_eq_ok (fun key _ s s' name hkey => ?_) hconfigure
    obtain ⟨u, s₁, -, hname⟩ := exists_of_bind_eq_ok hkey
    cases hname
    rfl
  rw [hconfigured, List.map_map]
  constructor
  · intro name hname
    obtain ⟨e, he, rfl⟩ := List.mem_map.mp hname
    obtain ⟨name', hname', heq⟩ := hkeys _ (List.mem_map_of_mem he)
    rw [Function.comp_apply, heq]
    exact hname'
  · intro name hname hunused
    obtain ⟨e, he, heq⟩ := List.mem_map.mp (hmem name hname hunused)
    refine List.mem_map.mpr ⟨e, he, ?_⟩
    rw [Function.comp_apply, heq]
    rfl

theorem keeps_configureLoggers (hother : other ∉ names) (hroot : Registry.isRootName other = false) (levelsOnly : Bool) :
    Keeps (fun s => s.registry.get other) (configureLoggers levelsOnly config) := by
  obtain ⟨sections, hget, hkeys, -⟩ := h
  rw [configureLoggers_eq hget]
  refine Keeps.mapM fun key hkey => ?_
  obtain ⟨e, he, rfl⟩ := List.mem_map.mp hkey
  obtain ⟨name, hname, heq⟩ := hkeys _ (List.mem_map_of_mem he)
  refine Keeps.bind (keeps_configureLogger ?_ hroot levelsOnly _) fun _ => Keeps.pure _
  rintro rfl
  rw [heq] at hother
  exact hother hname

end

/-! ### A whole configuration -/

theorem find?_ofEntries (key : Scalar) (entries : List (Scalar × Value)) :
    ConfigItem.find? key (ConfigItem.ofEntries entries) = (Value.find? key entries).map ConfigItem.ofValue := by
  induction entries with
  | nil => rfl
  | cons e rest ih =>
    obtain ⟨k, v⟩ := e
    rw [ConfigItem.ofEntries, ConfigItem.find?, Value.find?, ih]
    split <;> rfl

theorem keys_ofEntries (entries : List (Scalar × Value)) : (ConfigItem.ofEntries entries).map Prod.fst = entries.map Prod.fst := by
  induction entries with
  | nil => rfl
  | cons e rest ih =>
    obtain ⟨k, v⟩ := e
    rw [ConfigItem.ofEntries, List.map_cons, List.map_cons, ih]

theorem get?_ofValue (v : Value) (name : String) : (ConfigItem.ofValue v).get? name = (v.get? name).map ConfigItem.ofValue := by
  cases v with
  | map entries => exact find?_ofEntries (.str name) entries
  | scalar s => rfl
  | list items => rfl
  | set items => rfl

theorem hasLoggers_ofValue {mapping : Value} {sections : Keyed Value}
    (h : mapping.get? "loggers" = some (.map (asEntries sections))) :
    HasLoggers (Keyed.keys sections) (.ofValue mapping) := by
  have hkeys : (ConfigItem.ofEntries (asEntries sections)).map Prod.fst = (Keyed.keys sections).map .str := by
    rw [keys_ofEntries, asEntries, List.map_map, Keyed.keys, List.map_map]
    rfl
  refine ⟨ConfigItem.ofEntries (asEntries sections), ?_, ?_, ?_⟩
  · rw [get?_ofValue, h]
    rfl
  · intro key hkey
    rw [hkeys] at hkey
    obtain ⟨name, hname, rfl⟩ := List.mem_map.mp hkey
    exact ⟨name, hname, rfl⟩
  · intro name hname _
    rw [hkeys]
    exact List.mem_map_of_mem hname

theorem keeps_adjust {names : List String} {config : ConfigItem} (h : HasLoggers names config) (hother : other ∉ names)
    (hroot : Registry.isRootName other = false) : Keeps (fun s => s.registry.get other) (adjust config) := by
  unfold adjust
  refine (keeps_lift _).bind fun found => (keeps_lift _).bind fun listed => ?_
  refine (Keeps.forM fun name _ => keeps_get (keeps_adjustHandler config found name) other).bind fun _ => ?_
  refine (keeps_configureLoggers h hother hroot true).bind fun _ => ?_
  exact keeps_configureRoot hroot true config

theorem name_settleOther (named : List String) (disable : Value) (l : Logger) : (settleOther named disable l).name = l.name := by
  unfold settleOther
  split
  · rfl
  · split <;> rfl

/-- The loggers after those were settled that were there before. -/
def settleOthers (before : Registry) (named : List String) (disable : Value) (r : Registry) : Registry :=
  { r with loggers := r.loggers.map fun l =>
      if before.loggers.any fun o => o.name == l.name then settleOther named disable l else l }

/-- When handlers are replaced, the loggers of the configuration are configured, then the other ones are settled and the root. -/
theorem exists_of_replace_eq_ok {names : List String} {config : ConfigItem} {s s' : LogState} (h : HasLoggers names config)
    (hreplace : replace config s = .ok () s') :
    ∃ config' s₁ s₂ configured disable, HasLoggers names config' ∧ (∀ other, s₁.registry.get other = s.registry.get other) ∧
      configureLoggers false config' s₁ = .ok configured s₂ ∧
      configureRoot false config' ⟨settleOthers s₁.registry (configured.filter fun n => s₁.registry.allNames.contains n) disable
        s₂.registry, s₂.files, s₂.output⟩ = .ok () s' := by
  obtain ⟨found, -, hreplace⟩ := exists_of_lift_bind_eq_ok hreplace
  obtain ⟨u, s₀, hclose, hreplace⟩ := exists_of_bind_eq_ok hreplace
  obtain ⟨config₁, hlayouts, hreplace⟩ := exists_of_lift_bind_eq_ok hreplace
  obtain ⟨config₂, hfilters, hreplace⟩ := exists_of_lift_bind_eq_ok hreplace
  obtain ⟨config₃, s₁, hhandlers, hreplace⟩ := exists_of_bind_eq_ok hreplace
  obtain ⟨configured, s₂, hconfigured, hreplace⟩ := exists_of_bind_eq_ok ((bind_of_eq_ok (get_eq_ok s₁)).symm.trans hreplace)
  refine ⟨config₃, s₁, s₂, configured, _, ((h.of_makeAll hlayouts).of_makeAll hfilters).of_makeHandlers hhandlers,
    fun other => ?_, hconfigured, hreplace⟩
  have hmade := (keeps_get (keeps_makeHandlers config₂) other).of_eq_ok hhandlers
  exact hmade.trans ((keeps_get (keeps_mapError keeps_closeHandlers ConfigError.emit) other).of_eq_ok hclose)

/-- A logger that was not there before has no level of its own, and one that is settled loses it if it lies below a named one. -/
theorem ownLevel?_settleOthers {before r : Registry} {named : List String} {disable : Value} (hsame : r.get other = before.get other)
    (hroot : Registry.isRootName other = false) (hother : other ∉ named) :
    ((settleOthers before named disable r).get other).ownLevel? = none ∨
      ((settleOthers before named disable r).get other).ownLevel? = (r.get other).ownLevel? ∧
        (∃ l ∈ before.loggers, l.name = other) ∧ ∀ above ∈ named, isBelow above other = false := by
  have hname : ∀ l ∈ r.loggers,
      (if before.loggers.any fun o => o.name == l.name then settleOther named disable l else l).name = l.name := by
    intro l _
    split
    · exact name_settleOther named disable l
    · rfl
  have hget : (settleOthers before named disable r).get other = ((r.below? other).map fun l =>
      if before.loggers.any fun o => o.name == l.name then settleOther named disable l else l).getD (.new other) := by
    rw [settleOthers, Registry.get, hroot, Registry.below?_map hname]
    rfl
  rw [hget]
  cases hbelow : r.below? other with
  | none => exact .inl rfl
  | some l =>
    obtain rfl : r.get other = l := Registry.get_of_below? hbelow hroot
    have hl : (r.get other).name = other := Registry.name_get r hroot
    rw [Option.map_some, Option.getD_some, hl]
    split
    · rename_i hold
      unfold settleOther
      rw [hl]
      split
      · rename_i hnamed
        rw [List.contains_iff_mem] at hnamed
        exact absurd hnamed hother
      · split
        · exact .inl (Logger.ownLevel?_of_unset rfl)
        · rename_i hbelow
          refine .inr ⟨Logger.ownLevel?_congr rfl, by simpa using hold, ?_⟩
          simpa using hbelow
    · rename_i hnew
      have hnone : before.below? other = none := by
        rw [Registry.below?, List.find?_eq_none]
        simpa using hnew
      rw [hsame, Registry.get, hroot, hnone]
      exact .inl rfl

/-- **A logger that is not named keeps its level or loses it, and loses it if it lies below a named one.** -/
theorem ownLevel?_of_replace {names : List String} {config : ConfigItem} {s s' : LogState} (h : HasLoggers names config)
    (hother : other ∉ names) (hroot : Registry.isRootName other = false) (hreplace : replace config s = .ok () s') :
    (s'.registry.get other).ownLevel? = none ∨ (s'.registry.get other).ownLevel? = (s.registry.get other).ownLevel? ∧
      ∀ above ∈ names, above ∉ usedSettings → above ≠ "" → isNestedIn above other = false := by
  obtain ⟨config', s₁, s₂, configured, disable, h', hbefore, hconfigured, hend⟩ := exists_of_replace_eq_ok h hreplace
  obtain ⟨hnames, hmem⟩ := configured_of_hasLoggers h' hconfigured
  have hsame : s₂.registry.get other = s₁.registry.get other := (keeps_configureLoggers h' hother hroot false).of_eq_ok hconfigured
  have hlast := (keeps_configureRoot hroot false config').of_eq_ok hend
  have hunnamed : other ∉ configured.filter fun n => s₁.registry.allNames.contains n :=
    fun hmem => hother (hnames other (List.mem_filter.mp hmem).1)
  dsimp only at hlast
  rw [hlast, ← hbefore other, ← hsame]
  refine (ownLevel?_settleOthers hsame hroot hunnamed).imp_right fun ⟨hkept, ⟨l, hl, hname⟩, hbelow⟩ => ⟨hkept, ?_⟩
  intro above habove hunused hne
  rw [Bool.eq_false_iff]
  intro hnested
  -- a logger that was there before makes the names known that it lies below
  have hknown : above ∈ s₁.registry.allNames := by
    refine List.mem_append_right _ (List.mem_flatMap.mpr ⟨l, hl, ?_⟩)
    rw [hname]
    exact Registry.mem_namesAbove hne hnested
  have habove' := hbelow above (List.mem_filter.mpr ⟨hmem above habove hunused, by simpa using hknown⟩)
  rw [isBelow_of_isNestedIn hnested] at habove'
  cases habove'

/-- **A configuration leaves the loggers alone that it does not name, or takes their levels from them.** -/
theorem ownLevel?_of_configure {mapping : Value} {sections : Keyed Value} {s s' : LogState}
    (hloggers : mapping.get? "loggers" = some (.map (asEntries sections))) (hother : other ∉ Keyed.keys sections)
    (hroot : Registry.isRootName other = false) (h : configure mapping s = .ok () s') :
    (s'.registry.get other).ownLevel? = none ∨ (s'.registry.get other).ownLevel? = (s.registry.get other).ownLevel? ∧
      (mapping.get? "incremental" = none →
        ∀ above ∈ Keyed.keys sections, above ∉ usedSettings → above ≠ "" → isNestedIn above other = false) := by
  have hnames := hasLoggers_ofValue hloggers
  unfold configure at h
  obtain ⟨version, -, h⟩ := exists_of_lift_bind_eq_ok h
  cases version with
  | none => cases h
  | some version =>
    dsimp only at h
    split at h
    · cases h
    · obtain ⟨incremental, hincremental, h⟩ := exists_of_lift_bind_eq_ok h
      split at h
      · rename_i hlevels
        have hkept : s'.registry.get other = s.registry.get other := (keeps_adjust hnames hother hroot).of_eq_ok h
        refine .inr ⟨by rw [hkept], fun hmissing => ?_⟩
        have hget : (ConfigItem.ofValue mapping).get? "incremental" = none := by rw [get?_ofValue, hmissing, Option.map_none]
        simp only [topSetting, hget] at hincremental
        cases hincremental
        cases hlevels
      · exact (ownLevel?_of_replace hnames hother hroot h).imp_right fun ⟨hkept, hbelow⟩ => ⟨hkept, fun _ => hbelow⟩

end ApiDoc.Logging
