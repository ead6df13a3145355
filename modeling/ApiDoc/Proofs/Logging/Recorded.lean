import ApiDoc.Logging.Session
import ApiDoc.Proofs.Steps

/-!
# The recorded source

A session records the source it was set up from last, and it does so before the configuration of that source is applied. So the recorded source is that of the last attempt to set up, whether or not the attempt came to its end, and a logger that is opened after a failed attempt does not try again.

* `Attempt` is what an attempt comes to, and `setup_cases` how `setup` follows it.
* `Event` is a call, or something else that happens between calls; `source_perform` says what one event does to the recorded source and `source_run` what a run does.
* `recorded_of_run` puts this together.
-/

namespace ApiDoc.Logging

namespace Session

/-! ### Steps that leave the recorded source alone -/

/-- The session after a step, also if the step fails. -/
def after {α : Type} (step : Step α) (s : Session) : Session :=
  match step s with
  | .ok _ s' => s'
  | .error _ s' => s'

/-- A step that leaves the recorded source alone. -/
def KeepsSource {α : Type} (step : Step α) : Prop := ∀ s, (after step s).source = s.source

section
variable {α β : Type}

theorem after_eq_stateAfter (step : Step α) (s : Session) : after step s = stateAfter step s := by
  rw [after, stateAfter]
  cases step s <;> rfl

theorem keepsSource_iff {step : Step α} : KeepsSource step ↔ Keeps Session.source step := by
  simp only [KeepsSource, Keeps, after_eq_stateAfter]

theorem keepsSource_pure (a : α) : KeepsSource (pure a : Step α) := fun _ => rfl

theorem keepsSource_throw (e : SetupError) : KeepsSource (throw e : Step α) := fun _ => rfl

theorem keepsSource_get : KeepsSource (get : Step Session) := fun _ => rfl

theorem withLogs_eq_ok {change : SettingUp α} {s : Session} {a : α} {logs : LogState} (h : change s.logs = .ok a logs) :
    withLogs change s = .ok a { s with logs } := by
  rw [withLogs, h]

theorem withLogs_eq_error {change : SettingUp α} {s : Session} {e : SetupError} {logs : LogState}
    (h : change s.logs = .error e logs) : withLogs change s = .error e { s with logs } := by
  rw [withLogs, h]

theorem keepsSource_withLogs (change : SettingUp α) : KeepsSource (withLogs change) := by
  intro s
  cases h : change s.logs with
  | ok a logs => rw [after, withLogs_eq_ok h]
  | error e logs => rw [after, withLogs_eq_error h]

theorem KeepsSource.bind {step : Step α} {next : α → Step β} (hstep : KeepsSource step) (hnext : ∀ a, KeepsSource (next a)) :
    KeepsSource (step >>= next) :=
  keepsSource_iff.mpr ((keepsSource_iff.mp hstep).bind fun a => keepsSource_iff.mp (hnext a))

theorem keepsSource_forM {f : α → Step PUnit} (h : ∀ x, KeepsSource (f x)) (xs : List α) : KeepsSource (xs.forM f) :=
  keepsSource_iff.mpr (Keeps.forM fun x _ => keepsSource_iff.mp (h x))

theorem keepsSource_log (name : String) (level : Level) (message : Message) : KeepsSource (log name level message) :=
  (keepsSource_withLogs _).bind fun _ => keepsSource_get.bind fun _ => keepsSource_withLogs _

theorem keepsSource_loadSettings (values : List (String × Json)) : KeepsSource (loadSettings values) := by
  have hwarn : KeepsSource warnOfEnvFile :=
    keepsSource_get.bind fun _ => keepsSource_forM (fun _ => keepsSource_log _ _ _) _
  refine hwarn.bind fun _ => keepsSource_get.bind fun s => ?_
  cases Settings.load s.environment s.logs.files values with
  | error e => exact keepsSource_throw _
  | ok settings => exact keepsSource_pure _

theorem keepsSource_setLevel (name : String) : KeepsSource (setLevel name) := by
  refine (keepsSource_withLogs _).bind fun _ => ?_
  cases levelOf? (String.ofList (Text.upperAll name.toList)) with
  | none => exact keepsSource_throw _
  | some level => exact keepsSource_withLogs _

end

/-! ### Attempts -/

/-- An attempt to set up: the source as it is recorded, and whether its configuration was applied. -/
structure Attempt where
  source : LogSource
  applied : Bool

/-- The attempt to set up from a source. The source is recorded with its mapping if that can be read. -/
def attempt (source : LogSource) (logs : LogState) : Attempt :=
  match source.load logs with
  | .error _ _ => ⟨source, false⟩
  | .ok (mapping, read) logs =>
    match applyMapping mapping logs with
    | .error _ _ => ⟨read, false⟩
    | .ok _ _ => ⟨read, true⟩

/-- Setting up from a source records it in any case, and succeeds if its configuration is applied. -/
theorem start_cases (source : LogSource) (s : Session) :
    ((attempt source s.logs).applied = true ∧
        ∃ s', start source s = .ok () s' ∧ s'.source = some (attempt source s.logs).source) ∨
      ((attempt source s.logs).applied = false ∧
        ∃ e s', start source s = .error e s' ∧ s'.source = some (attempt source s.logs).source) := by
  have hstart : start source s = (withLogs source.load >>= fun found =>
      modify (fun s => { s with source := some found.2 }) >>= fun _ => withLogs (applyMapping found.1))
        { s with source := some source } := bind_of_eq_ok rfl
  rw [hstart]
  cases hload : source.load s.logs with
  | error e logs =>
    have hattempt : attempt source s.logs = ⟨source, false⟩ := by simp only [attempt, hload]
    rw [hattempt]
    exact .inr ⟨rfl, e, _, bind_of_eq_error (withLogs_eq_error hload), rfl⟩
  | ok found logs =>
    have hread : withLogs source.load { s with source := some source } = .ok found { s with source := some source, logs } :=
      withLogs_eq_ok hload
    cases happly : applyMapping found.1 logs with
    | error e logs' =>
      have hattempt : attempt source s.logs = ⟨found.2, false⟩ := by simp only [attempt, hload, happly]
      rw [hattempt]
      exact .inr ⟨rfl, e, { s with source := some found.2, logs := logs' },
        (bind_of_eq_ok hread).trans (withLogs_eq_error happly), rfl⟩
    | ok u logs' =>
      have hattempt : attempt source s.logs = ⟨found.2, true⟩ := by simp only [attempt, hload, happly]
      rw [hattempt]
      exact .inl ⟨rfl, { s with source := some found.2, logs := logs' },
        (bind_of_eq_ok hread).trans (withLogs_eq_ok happly), rfl⟩

/-- The attempt that `setup` makes, unless the settings cannot be loaded. -/
def setupAttempt? (path : Option String) (s : Session) : Option Attempt :=
  match loadSettings [] s with
  | .error _ _ => none
  | .ok settings s₁ => some (attempt (.of path settings) s₁.logs)

/-- What `setup` does after its configuration is applied. -/
def adjust (level : Option String) : Step Unit :=
  match level with
  | some name => if name.isEmpty then return else setLevel name
  | none => return

theorem keepsSource_adjust (level : Option String) : KeepsSource (adjust level) := by
  cases level with
  | none => exact keepsSource_pure _
  | some name =>
    rw [adjust]
    split_ifs
    · exact keepsSource_pure _
    · exact keepsSource_setLevel name

/-- Without settings `setup` fails and leaves the recorded source alone. Otherwise it makes an attempt and records its source: it fails if the attempt does, and goes on to the level if the configuration is applied. -/
theorem setup_cases (path level : Option String) (s : Session) :
    (setupAttempt? path s = none ∧ ∃ e s', setup path level s = .error e s' ∧ s'.source = s.source) ∨
      ∃ a, setupAttempt? path s = some a ∧ ∃ s', s'.source = some a.source ∧
        ((a.applied = true ∧ setup path level s = adjust level s') ∨
          a.applied = false ∧ ∃ e, setup path level s = .error e s') := by
  have hkeeps := keepsSource_loadSettings [] s
  rw [after] at hkeeps
  rw [setupAttempt?]
  cases hload : loadSettings [] s with
  | error e s₁ =>
    rw [hload] at hkeeps
    exact .inl ⟨rfl, e, s₁, bind_of_eq_error hload, hkeeps⟩
  | ok settings s₁ =>
    refine .inr ⟨_, rfl, ?_⟩
    have hsetup : setup path level s = (start (.of path settings) >>= fun _ => adjust level) s₁ := bind_of_eq_ok hload
    rcases start_cases (.of path settings) s₁ with ⟨happlied, s', hstart, hsource⟩ | ⟨happlied, e, s', hstart, hsource⟩
    · exact ⟨s', hsource, .inl ⟨happlied, hsetup.trans (bind_of_eq_ok hstart)⟩⟩
    · exact ⟨s', hsource, .inr ⟨happlied, e, hsetup.trans (bind_of_eq_error hstart)⟩⟩

theorem source_setup (path level : Option String) (s : Session) :
    (after (setup path level) s).source = ((setupAttempt? path s).map Attempt.source).or s.source := by
  rcases setup_cases path level s with ⟨hnone, e, s', hsetup, hsource⟩ | ⟨a, hsome, s', hsource, h⟩
  · rw [hnone, after, hsetup]
    exact hsource
  · rw [hsome]
    rcases h with ⟨-, hsetup⟩ | ⟨-, e, hsetup⟩
    · rw [after, hsetup]
      exact (keepsSource_adjust level s').trans hsource
    · rw [after, hsetup]
      exact hsource

theorem exists_setup_eq_error_of_none {path : Option String} {s : Session} (hnone : setupAttempt? path s = none)
    (level : Option String) : ∃ e s', setup path level s = .error e s' ∧ s'.source = s.source := by
  rcases setup_cases path level s with ⟨-, h⟩ | ⟨a, hsome, -⟩
  · exact h
  · rw [hnone] at hsome
    cases hsome

theorem exists_setup_eq_error_of_failed {path : Option String} {s : Session} {a : Attempt}
    (hsome : setupAttempt? path s = some a) (hfailed : a.applied = false) (level : Option String) :
    ∃ e s', setup path level s = .error e s' ∧ s'.source = some a.source := by
  rcases setup_cases path level s with ⟨hnone, -⟩ | ⟨a', hsome', s', hsource, h⟩
  · rw [hsome] at hnone
    cases hnone
  · obtain rfl : a = a' := Option.some.inj (hsome.symm.trans hsome')
    rcases h with ⟨happlied, -⟩ | ⟨-, e, herror⟩
    · rw [hfailed] at happlied
      cases happlied
    · exact ⟨e, s', herror, hsource⟩

theorem applied_of_setup_eq_ok {path level : Option String} {s s' : Session} {u : Unit} (h : setup path level s = .ok u s') :
    ∃ a, setupAttempt? path s = some a ∧ a.applied = true ∧ s'.source = some a.source := by
  cases hattempt : setupAttempt? path s with
  | none =>
    obtain ⟨e, s₁, herror, -⟩ := exists_setup_eq_error_of_none hattempt level
    rw [h] at herror
    cases herror
  | some a =>
    cases happlied : a.applied with
    | false =>
      obtain ⟨e, s₁, herror, -⟩ := exists_setup_eq_error_of_failed hattempt happlied level
      rw [h] at herror
      cases herror
    | true =>
      have hsource := source_setup path level s
      rw [after, h, hattempt] at hsource
      exact ⟨a, rfl, happlied, hsource⟩

/-! ### Runs -/

/-- A call, or whatever changes the loggers, the files, the environment and the time between calls. -/
inductive Event where
  | setup (path level : Option String)
  | openLogger (name : String)
  | meanwhile (logs : LogState) (environment : List (String × String)) (clock : Stamp)

/-- The session after an event. A call that fails leaves behind what it did before. -/
def Event.perform : Event → Session → Session
  | .setup path level, s => after (Session.setup path level) s
  | .openLogger name, s => after (Session.openLogger name) s
  | .meanwhile logs environment clock, s => { s with logs, environment, clock }

/-- The attempt that an event makes, if it makes one. -/
def Event.attempt? : Event → Session → Option Attempt
  | .setup path _, s => setupAttempt? path s
  | .openLogger _, s => if s.source.isNone then setupAttempt? none s else none
  | .meanwhile .., _ => none

/-- The session after some events. -/
def run (events : List Event) (s : Session) : Session := events.foldl (fun s event => event.perform s) s

/-- The attempts that are made in the course of some events. -/
def attempts : List Event → Session → List Attempt
  | [], _ => []
  | event :: events, s => (event.attempt? s).toList ++ attempts events (event.perform s)

theorem attempts_append (events events' : List Event) (s : Session) :
    attempts (events ++ events') s = attempts events s ++ attempts events' (run events s) := by
  induction events generalizing s with
  | nil => rfl
  | cons event events ih =>
    rw [List.cons_append, attempts, ih, attempts, List.append_assoc]
    rfl

/-- The loggers once one is opened. -/
def opened (r : Registry) (name : String) : Registry := (r.ensure familyName).ensure (fullName name)

theorem openLogger_eq_ok {s : Session} (h : s.source.isSome = true) (name : String) :
    openLogger name s = .ok (fullName name) { s with logs := { s.logs with registry := opened s.logs.registry name } } := by
  obtain ⟨logs, environment, clock, source⟩ := s
  obtain ⟨source, rfl⟩ := Option.isSome_iff_exists.mp h
  rfl

theorem openLogger_of_isSome {s : Session} (h : s.source.isSome = true) (name : String) :
    ∃ logs, openLogger name s = .ok (fullName name) { s with logs } := ⟨_, openLogger_eq_ok h name⟩

theorem openLogger_of_none {s : Session} (h : s.source = none) (name : String) :
    (∃ s' logs, setup none none s = .ok () s' ∧ openLogger name s = .ok (fullName name) { s' with logs }) ∨
      ∃ e s', setup none none s = .error e s' ∧ openLogger name s = .error e s' := by
  have hopen : openLogger name s = (setup none none >>= fun _ =>
      modifyRegistry (fun r => (r.ensure familyName).ensure (fullName name)) >>= fun _ => pure (fullName name)) s := by
    refine (bind_of_eq_ok (get_eq_ok s)).trans ?_
    rw [h]
    rfl
  rw [hopen]
  cases hsetup : setup none none s with
  | ok u s' =>
    exact .inl ⟨s', _, rfl, bind_of_eq_ok hsetup⟩
  | error e s' => exact .inr ⟨e, s', rfl, bind_of_eq_error hsetup⟩

/-- If a logger is opened, a source was recorded before, or this call set up one that was applied. -/
theorem source_of_openLogger_eq_ok {name full : String} {s s' : Session} (h : openLogger name s = .ok full s') :
    (s.source.isSome = true ∧ s'.source = s.source) ∨
      (s.source = none ∧ ∃ a, setupAttempt? none s = some a ∧ a.applied = true ∧ s'.source = some a.source) := by
  cases hsource : s.source with
  | some source =>
    obtain ⟨logs, hopen⟩ := openLogger_of_isSome (by rw [hsource, Option.isSome_some]) name
    cases h.symm.trans hopen
    exact .inl ⟨rfl, hsource⟩
  | none =>
    rcases openLogger_of_none hsource name with ⟨s₁, logs, hsetup, hopen⟩ | ⟨e, s₁, -, hopen⟩
    · cases h.symm.trans hopen
      obtain ⟨a, hattempt, happlied, hrecorded⟩ := applied_of_setup_eq_ok hsetup
      exact .inr ⟨rfl, a, hattempt, happlied, hrecorded⟩
    · cases h.symm.trans hopen

/-- One event records the source of its attempt, and nothing if it makes none. -/
theorem source_perform (event : Event) (s : Session) :
    (event.perform s).source = ((event.attempt? s).map Attempt.source).or s.source := by
  cases event with
  | setup path level => exact source_setup path level s
  | openLogger name =>
    rw [Event.perform, Event.attempt?, after]
    cases hsource : s.source with
    | some source =>
      obtain ⟨logs, hopen⟩ := openLogger_of_isSome (by rw [hsource, Option.isSome_some]) name
      rw [hopen]
      exact hsource
    | none =>
      have hsetup := source_setup none none s
      rw [after, hsource] at hsetup
      rcases openLogger_of_none hsource name with ⟨s', logs, hok, hopen⟩ | ⟨e, s', herror, hopen⟩
      · rw [hok] at hsetup
        rw [hopen]
        exact hsetup
      · rw [herror] at hsetup
        rw [hopen]
        exact hsetup
  | meanwhile logs environment clock => rfl

theorem source_run (events : List Event) (s : Session) :
    (run events s).source = ((attempts events s).getLast?.map Attempt.source).or s.source := by
  induction events generalizing s with
  | nil => rfl
  | cons event events ih =>
    rw [run, List.foldl_cons]
    refine (ih (event.perform s)).trans ?_
    rw [source_perform, attempts, List.getLast?_append, ← Option.or_assoc]
    congr 1
    cases event.attempt? s <;> cases (attempts events (event.perform s)).getLast? <;> rfl

/-- **The recorded source is that of the last attempt.** After any events in a session that starts without a recorded source, the source recorded is that of the last attempt to set up, and none if there was no attempt. A `setup` that cannot load the settings fails and leaves the record alone; one that cannot read or apply its configuration fails with its source recorded. When a logger is opened, the source of the last attempt is recorded, and its configuration was applied unless that attempt was made by one of the events before. -/
theorem recorded_of_run {s : Session} (hs : s.source = none) (events : List Event) :
    (run events s).source = (attempts events s).getLast?.map Attempt.source ∧
    (∀ path level, setupAttempt? path (run events s) = none →
      ∃ e s', setup path level (run events s) = .error e s' ∧ s'.source = (run events s).source) ∧
    (∀ path level a, setupAttempt? path (run events s) = some a → a.applied = false →
      ∃ e s', setup path level (run events s) = .error e s' ∧ s'.source = some a.source) ∧
    ∀ name full s', openLogger name (run events s) = .ok full s' →
      ∃ a, (attempts (events ++ [.openLogger name]) s).getLast? = some a ∧ s'.source = some a.source ∧
        (a.applied = true ∨ (attempts events s).getLast? = some a) := by
  have hrun : (run events s).source = (attempts events s).getLast?.map Attempt.source := by
    rw [source_run, hs, Option.or_none]
  refine ⟨hrun, fun path level hnone => exists_setup_eq_error_of_none hnone level,
    fun path level a hsome hfailed => exists_setup_eq_error_of_failed hsome hfailed level, ?_⟩
  intro name full s' hopen
  rw [attempts_append, attempts, attempts, Event.attempt?, List.append_nil]
  rcases source_of_openLogger_eq_ok hopen with ⟨hsome, hsource⟩ | ⟨hnone, a, hattempt, happlied, hsource⟩
  · -- a source is recorded already, so no attempt is made
    obtain ⟨source, hsome⟩ := Option.isSome_iff_exists.mp hsome
    obtain ⟨a, hlast, ha⟩ := Option.map_eq_some_iff.mp (hrun.symm.trans hsome)
    refine ⟨a, ?_, ?_, .inr hlast⟩
    · simpa [hsome] using hlast
    · rw [hsource, hsome, ha]
  · exact ⟨a, by simp [hnone, hattempt], hsource, .inl happlied⟩

/-- Files in which a directory stands in the place of a configuration. -/
def shadowedFiles : Storage.Files := [(⟨0, ["logging.yml"]⟩, .directory)]

def shadowed : Session := fresh [] shadowedFiles default

def shadowedAttempt : Attempt := ⟨⟨some "logging.yml", Settings.default, none⟩, false⟩

theorem setupAttempt?_shadowed : setupAttempt? (some "logging.yml") shadowed = some shadowedAttempt := rfl

/-- An attempt to set up from the directory, and nothing else. -/
def shadowedEvents : List Event := [.setup (some "logging.yml") none]

theorem attempts_shadowed : attempts shadowedEvents shadowed = [shadowedAttempt] := by
  rw [shadowedEvents, attempts, Event.attempt?, setupAttempt?_shadowed]
  rfl

theorem source_shadowed : (run shadowedEvents shadowed).source = some shadowedAttempt.source := by
  rw [source_run, attempts_shadowed]
  rfl

theorem openLogger_shadowed : ∃ logs, openLogger loaderName (run shadowedEvents shadowed) =
    .ok (fullName loaderName) { run shadowedEvents shadowed with logs } :=
  openLogger_of_isSome (by rw [source_shadowed, Option.isSome_some]) loaderName

theorem attempts_openLogger_shadowed : attempts (shadowedEvents ++ [.openLogger loaderName]) shadowed = [shadowedAttempt] := by
  rw [attempts_append, attempts_shadowed, attempts, attempts, Event.attempt?, source_shadowed]
  rfl

theorem recorded_shadowed :
    (∃ e s', setup (some "logging.yml") none shadowed = .error e s' ∧ s'.source = some shadowedAttempt.source) ∧
      (run shadowedEvents shadowed).source = some shadowedAttempt.source ∧
      ∃ full s', openLogger loaderName (run shadowedEvents shadowed) = .ok full s' ∧ s'.source = some shadowedAttempt.source := by
  obtain ⟨-, -, hfailed, -⟩ := @recorded_of_run shadowed rfl []
  obtain ⟨hrun, -, -, hopens⟩ := @recorded_of_run shadowed rfl shadowedEvents
  obtain ⟨logs, hopen⟩ := openLogger_shadowed
  obtain ⟨a, hlast, hsource, -⟩ := hopens _ _ _ hopen
  rw [attempts_openLogger_shadowed] at hlast
  obtain rfl : shadowedAttempt = a := Option.some.inj hlast
  rw [attempts_shadowed] at hrun
  exact ⟨hfailed _ none _ setupAttempt?_shadowed rfl, hrun, _, _, hopen, hsource⟩

/-- A `setup` that fails does not always leave the record alone, and when a logger is opened, there need not have been an attempt that was applied. -/
theorem not_always_applied :
    (¬ ∀ files path e s', setup path none (fresh [] files default) = .error e s' → s'.source = none) ∧
      ¬ ∀ files events name full s', openLogger name (run events (fresh [] files default)) = .ok full s' →
        ∃ a ∈ attempts (events ++ [.openLogger name]) (fresh [] files default), a.applied = true := by
  constructor
  · intro hall
    obtain ⟨e, s', herror, hsource⟩ := exists_setup_eq_error_of_failed setupAttempt?_shadowed rfl none
    rw [hall _ _ _ _ herror] at hsource
    cases hsource
  · intro hall
    obtain ⟨logs, hopen⟩ := openLogger_shadowed
    have happlied : ∃ a ∈ attempts (shadowedEvents ++ [.openLogger loaderName]) shadowed, a.applied = true :=
      hall shadowedFiles _ _ _ _ hopen
    rw [attempts_openLogger_shadowed] at happlied
    obtain ⟨a, ha, happlied⟩ := happlied
    rw [List.mem_singleton.mp ha] at happlied
    cases happlied

end Session

end ApiDoc.Logging
