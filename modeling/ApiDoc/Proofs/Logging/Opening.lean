import ApiDoc.Proofs.Logging.Quiet

/-!
# Opening loggers under the default settings

What happens before the program reads its arguments when the settings are the default ones: the lines of the environment file that cannot be read are shown, once each time the settings are loaded, and the loggers are made. The files stay as they are (`openLoggers_bare`), and what is told about loading is dropped from then on (`quiet_withLoggers`).
-/

namespace ApiDoc.Logging

theorem emit_of_unreached {record : LogRecord} {s : LogState} (htakes : s.registry.takes record.logger record.level = true)
    (hfilters : (s.registry.get record.logger).filters = [])
    (hreached : Registry.reached (s.registry.lineage record.logger) = [])
    (hsevere : Level.warning.rank ≤ record.level.rank) :
    emit record s = .ok () { s with output := s.output ++ [(.stderr, record.message ++ "\n")] } := by
  simp only [emit, bind_of_eq_ok (get_eq_ok s), htakes, hfilters, hreached, acceptedByAll, hsevere]
  rfl

namespace Session

variable {environment : List (String × String)} {files : Storage.Files} {clock : Stamp} {output : Output}

def bareRegistry : Registry := (Registry.empty.ensure envFileLogger).ensure familyName

def bare (environment : List (String × String)) (files : Storage.Files) (clock : Stamp) (output : Output) : Session :=
  ⟨⟨bareRegistry, files, output⟩, environment, clock, none⟩

/-- What is shown about the lines of the environment file that cannot be read. -/
def complaints (files : Storage.Files) : Output :=
  (Settings.envFileFaults files).map fun line =>
    (.stderr, "python-dotenv could not parse statement starting at line " ++ toString line ++ "\n")

theorem log_bare (message : Message) :
    log envFileLogger .warning message (bare environment files clock output) =
      .ok () (bare environment files clock (output ++ [(.stderr, message.text ++ "\n")])) := by
  have hensure : bareRegistry.ensure envFileLogger = bareRegistry := by
    have hthere : (bareRegistry.below? envFileLogger).isSome = true := by decide +kernel
    rw [Registry.ensure, hthere, Bool.or_true, if_pos rfl]
  have hname : (bareRegistry.get envFileLogger).name = envFileLogger := Registry.name_get _ (by decide)
  have htakes : bareRegistry.takes envFileLogger .warning = true := by decide +kernel
  have hreached : Registry.reached (bareRegistry.lineage envFileLogger) = [] := by decide +kernel
  have hemit : emit ⟨envFileLogger, .warning, message.template, message.arguments, message.text, clock⟩
      ⟨bareRegistry, files, output⟩ = .ok () ⟨bareRegistry, files, output ++ [(.stderr, message.text ++ "\n")]⟩ :=
    emit_of_unreached htakes rfl hreached (Int.le_refl _)
  show withLogs (Logs.mapError .emit (emit ⟨((bareRegistry.ensure envFileLogger).get envFileLogger).name, .warning,
    message.template, message.arguments, message.text, clock⟩))
      ⟨⟨bareRegistry.ensure envFileLogger, files, output⟩, environment, clock, none⟩ = _
  rw [hensure, hname]
  simp only [withLogs, Logs.mapError, hemit]
  rfl

theorem forM_log_bare {α : Type} (message : α → Message) (xs : List α) :
    xs.forM (fun x => log envFileLogger .warning (message x)) (bare environment files clock output) =
      .ok () (bare environment files clock (output ++ xs.map fun x => (.stderr, (message x).text ++ "\n"))) := by
  induction xs generalizing output with
  | nil =>
    rw [List.map_nil, List.append_nil]
    rfl
  | cons x xs ih =>
    rw [List.map_cons, List.append_cons]
    exact (bind_of_eq_ok (log_bare (message x))).trans ih

theorem loadSettings_bare {settings : Settings} (h : Settings.load environment files [] = .ok settings) :
    loadSettings [] (bare environment files clock output) =
      .ok settings (bare environment files clock (output ++ complaints files)) := by
  have hwarn : warnOfEnvFile (bare environment files clock output) =
      .ok () (bare environment files clock (output ++ complaints files)) := forM_log_bare _ (Settings.envFileFaults files)
  refine (bind_of_eq_ok hwarn).trans ((bind_of_eq_ok (get_eq_ok _)).trans ?_)
  simp only [bare, h]
  rfl

/-- The loggers once the default settings are applied. -/
def defaultRegistry : Registry :=
  match start (.of none Settings.default) (bare [] [] default []) with
  | .ok _ s => s.logs.registry
  | .error _ s => s.logs.registry

theorem start_bare : ∃ source, start (.of none Settings.default) (bare environment files clock output) =
    .ok () ⟨⟨defaultRegistry, files, output⟩, environment, clock, some source⟩ :=
  -- no handler of the default settings writes to a file, so the computation never looks at `files` or `output`
  ⟨_, rfl⟩

theorem setup_of_start {settings : Settings} {s s₁ s' : Session} (hload : loadSettings [] s = .ok settings s₁)
    (hstart : start (.of none settings) s₁ = .ok () s') : setup none none s = .ok () s' :=
  (bind_of_eq_ok hload).trans (bind_of_eq_ok hstart)

def withLoggers (r : Registry) : Registry :=
  (((r.ensure familyName).ensure (fullName loaderName)).ensure familyName).ensure (fullName commandName)

theorem openLoggers_of_setup {output' : Output} {source : LogSource} {r : Registry}
    (h : setup none none (bare environment files clock output) = .ok () ⟨⟨r, files, output'⟩, environment, clock, some source⟩) :
    openLoggers (bare environment files clock output) =
      .ok () ⟨⟨withLoggers r, files, output'⟩, environment, clock, some source⟩ := by
  have hloader : openLogger loaderName (bare environment files clock output) = .ok (fullName loaderName)
      ⟨⟨(r.ensure familyName).ensure (fullName loaderName), files, output'⟩, environment, clock, some source⟩ :=
    bind_of_eq_ok h
  exact bind_of_eq_ok hloader

theorem takes_withLoggers : ((withLoggers defaultRegistry).ensure (fullName loaderName)).takes (fullName loaderName) .debug = false := by
  decide +kernel

/-- After the loggers were opened under the default settings, the messages about loading are dropped. -/
theorem quiet_withLoggers (source : Option LogSource) :
    Quiet ⟨⟨withLoggers defaultRegistry, files, output⟩, environment, clock, source⟩ := by
  simp only [Quiet, Drops, takes_withLoggers]

theorem openLoggers_bare (h : Settings.load environment files [] = .ok Settings.default) :
    ∃ source, openLoggers (bare environment files clock output) =
      .ok () ⟨⟨withLoggers defaultRegistry, files, output ++ complaints files⟩, environment, clock, some source⟩ := by
  obtain ⟨source, hstart⟩ := @start_bare environment files clock (output ++ complaints files)
  exact ⟨source, openLoggers_of_setup (setup_of_start (loadSettings_bare h) hstart)⟩

end Session

end ApiDoc.Logging
