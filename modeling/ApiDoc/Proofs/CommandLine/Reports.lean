import ApiDoc.Proofs.CommandLine.Arguments
import ApiDoc.Proofs.Logging.Opening
import ApiDoc.Proofs.Record.Totality
import ApiDoc.Proofs.Syntax.Load

/-!
# Which faults a run reports

A run that is given a command and a dump answers with the code 0 and what the command shows, or with the code 1 and one line about why the dump cannot be loaded. There are dumps it does not answer about at all (`Escapes`): those with a fault in loading that is not reported, and for the command that builds a documentation, those with a name that cannot be ordered. Under the default settings the others are answered about, but for texts with half a pair on its own, of which nothing is said (`run_answers_unless_escapes`).

A path with a dash in front may be taken for an option. The run then ends with a help, or with the code 2 and the usage, and loads nothing (`stopped`).
-/

namespace ApiDoc.CommandLine

open Logging (Output Session Sink Stamp)
open Storage (normalPath)
open Syntax (SourceTree StopsAtHalf Unreported load)

/-! ### Commands -/

/-- The session after something was written. -/
def written (sink : Sink) (text : String) (s : Session) : Session :=
  { s with logs := { s.logs with output := s.logs.output ++ [(sink, text)] } }

/-- What is told about a dump that cannot be loaded. -/
def failureLine (path : String) (e : Syntax.LoadError) : String :=
  "FAIL: could not process " ++ path ++ ": " ++ e.message ++ "\n"

/-- What a command shows of a tree. -/
inductive Shows (t : SourceTree) : Command → String → Prop
  | build {docs : Record.Documentation} (h : Record.build Settings.default t = .ok docs) : Shows t .build (Run.textOf docs)
  | dump : Shows t .dump ("\n".intercalate t.outline ++ "\n")

/-- What a command does with a tree that was loaded. -/
def present (c : Command) (t : SourceTree) : Run Nat :=
  match c with
  | .build => do
    let docs ← Run.lift .build (Record.build Settings.default t)
    Run.print .stdout (Run.textOf docs)
    return 0
  | .dump => do
    Run.print .stdout ("\n".intercalate t.outline ++ "\n")
    return 0

theorem act_eq (c : Command) (source : String) (s : Session) :
    Run.act Settings.default ⟨none, some (c.action source)⟩ s =
      Run.withTree (normalPath source) (present c) s := by
  have hsettings : Run.chosenSettings Settings.default none s = .ok Settings.default s := rfl
  cases c with
  | build =>
    simp only [Run.act, Command.action, bind_of_eq_ok hsettings]
    rfl
  | dump =>
    simp only [Run.act, Command.action, bind_of_eq_ok hsettings]
    rfl

theorem present_of_shows {c : Command} {t : SourceTree} {text : String} (h : Shows t c text) (s : Session) :
    present c t s = .ok 0 (written .stdout text s) := by
  cases h with
  | build h =>
    rw [present, h]
    rfl
  | dump => rfl

theorem exists_build_error_iff {t : SourceTree} :
    (∃ e, Record.build Settings.default t = .error e) ↔ Record.HasLongName t := by
  constructor
  · rintro ⟨e, he⟩
    by_contra hshort
    obtain ⟨docs, hdocs⟩ := Record.exists_build_eq_ok patternsCompile_default hshort
    rw [he] at hdocs
    cases hdocs
  · intro hlong
    obtain ⟨d, hd⟩ := Record.exists_build_eq_error patternsCompile_default hlong
    exact ⟨_, hd⟩

theorem present_of_hasLongName {t : SourceTree} (h : Record.HasLongName t) (s : Session) :
    ∃ e, present .build t s = .error e s := by
  obtain ⟨e, he⟩ := exists_build_error_iff.mpr h
  refine ⟨.build e, ?_⟩
  rw [present, he]
  rfl

section

variable {s : Session} {path : String} {k : SourceTree → Run Nat}

theorem step_of_eq_ok {α : Type} {change : Logging.Step α} {s s' : Session} {a : α} (h : change s = .ok a s') :
    Run.step change s = .ok a s' := by
  simp only [Run.step, h]

theorem lift_eq_ok {ε α : Type} (fault : ε → RunError) (a : α) (s : Session) : Run.lift fault (.ok a) s = .ok a s := rfl

theorem files_eq_ok (s : Session) : Run.files s = .ok s.logs.files s := rfl

theorem withTree_of_reported {e : Syntax.LoadError} (h : load s.logs.files path = .error e) (hreported : isReported e = true) :
    Run.withTree path k s = .ok 1 (written .stderr (failureLine path e) s) := by
  simp only [Run.withTree, bind_of_eq_ok (files_eq_ok s), h, hreported]
  rfl

theorem withTree_of_unreported {e : Syntax.LoadError} (h : load s.logs.files path = .error e) (hreported : isReported e = false) :
    Run.withTree path k s = .error (.load e) s := by
  simp only [Run.withTree, bind_of_eq_ok (files_eq_ok s), h, hreported]
  rfl

theorem withTree_of_load {t : SourceTree} {s' : Session} (h : load s.logs.files path = .ok t)
    (htell : Session.tellOfTree t s = .ok () s') : Run.withTree path k s = k t s' := by
  simp only [Run.withTree, bind_of_eq_ok (files_eq_ok s), h]
  exact bind_of_eq_ok (step_of_eq_ok htell)

theorem withTree_of_quiet {t : SourceTree} (hs : s.Quiet) (h : load s.logs.files path = .ok t) :
    ∃ r, Run.withTree path k s = k t { s with logs := { s.logs with registry := r } } := by
  obtain ⟨r, hr⟩ := Session.tellOfTree_of_quiet hs t
  exact ⟨r, withTree_of_load h hr⟩

end

/-! ### Runs -/

/-- Dumps that a command gives no answer about. -/
inductive Escapes (files : Storage.Files) (path : String) : Command → Prop
  /-- The dump cannot be loaded, and that is not reported. -/
  | unreported {c : Command} (h : Unreported files path) : Escapes files path c
  /-- A name in the dump cannot be ordered. -/
  | unordered {t : SourceTree} (hload : load files path = .ok t) (h : Record.HasLongName t) : Escapes files path .build

/-- What is shown before the arguments are read. Settings are loaded for the run and once more for its loggers, and lines of the environment file that cannot be read are told of each time. -/
def startOutput (files : Storage.Files) : Output := Session.complaints files ++ Session.complaints files

/-- Answers to a command. Nothing but the answer is written after what was written before, and files stay as they are. -/
inductive Answers (files : Storage.Files) (path : String) (c : Command) (before : Output) : Outcome → Prop
  /-- What the command shows of the tree. -/
  | shown {t : SourceTree} {text : String} (hload : load files path = .ok t) (h : Shows t c text) :
    Answers files path c before ⟨0, before ++ [(.stdout, text)], files⟩
  /-- One line about why there is no tree. -/
  | failed {e : Syntax.LoadError} (hload : load files path = .error e) (h : isReported e = true) :
    Answers files path c before ⟨1, before ++ [(.stderr, failureLine path e)], files⟩

variable {files : Storage.Files} {path source : String}

theorem Escapes.of_not_shows {c : Command} {t : SourceTree} (hload : load files path = .ok t) (h : ¬ ∃ text, Shows t c text) :
    Escapes files path c := by
  cases c with
  | build =>
    by_contra hshort
    obtain ⟨docs, hdocs⟩ := Record.exists_build_eq_ok patternsCompile_default fun hlong => hshort (.unordered hload hlong)
    exact h ⟨_, .build hdocs⟩
  | dump => exact absurd ⟨_, .dump⟩ h

/-- A dump that a command gives no answer about breaks it off, whatever was shown before. -/
theorem withTree_of_escapes {c : Command} {s : Session} (hs : s.Quiet) (h : Escapes s.logs.files path c) :
    ∃ e s', Run.withTree path (present c) s = .error e s' := by
  cases h with
  | unreported h =>
    obtain ⟨e, hload, hreported⟩ := Syntax.exists_unreported_iff.mpr (.inl h)
    exact ⟨_, _, withTree_of_unreported hload hreported⟩
  | unordered hload h =>
    obtain ⟨r, hr⟩ := @withTree_of_quiet s path (present .build) _ hs hload
    obtain ⟨e, he⟩ := present_of_hasLongName h { s with logs := { s.logs with registry := r } }
    exact ⟨e, _, hr.trans he⟩

theorem withTree_of_not_escapes {c : Command} {s : Session} (hs : s.Quiet) (h : ¬ Escapes s.logs.files path c)
    (hhalf : ¬ StopsAtHalf s.logs.files path) :
    ∃ code s', Run.withTree path (present c) s = .ok code s' ∧
      Answers s.logs.files path c s.logs.output ⟨code, s'.logs.output, s'.logs.files⟩ := by
  cases hload : load s.logs.files path with
  | error e =>
    have hreported : isReported e = true := by
      by_contra hreported
      rcases Syntax.exists_unreported_iff.mp ⟨e, hload, by simpa using hreported⟩ with hunreported | hstops
      · exact h (.unreported hunreported)
      · exact hhalf hstops
    exact ⟨1, _, withTree_of_reported hload hreported, .failed hload hreported⟩
  | ok t =>
    obtain ⟨text, htext⟩ := by_contra fun hshows => h (.of_not_shows hload hshows)
    obtain ⟨r, hr⟩ := @withTree_of_quiet s path (present c) t hs hload
    exact ⟨0, _, hr.trans (present_of_shows htext _), .shown hload htext⟩

/-- A run acts on its arguments in a session, under some settings. -/
def StartsIn (around : Surroundings) (stamp : Stamp) (settings : Settings) (s : Session) : Prop :=
  ∃ s₀, Session.loadSettings [] (Session.fresh around.environment around.files stamp) = .ok settings s₀
    ∧ Session.openLoggers s₀ = .ok () s

theorem StartsIn.whole_of_parse {around : Surroundings} {stamp : Stamp} {settings : Settings} {s : Session}
    (h : StartsIn around stamp settings s) {args : List String} {i : Invocation} (hargs : Invocation.parse args = .ok i) :
    Run.whole args (Session.fresh around.environment around.files stamp) = Run.act settings i s := by
  obtain ⟨s₀, hload, hopen⟩ := h
  refine (bind_of_eq_ok (step_of_eq_ok hload)).trans ((bind_of_eq_ok (step_of_eq_ok hopen)).trans ?_)
  simp only [hargs]

/-- What a run leaves that stops at its arguments. -/
def stopped (files : Storage.Files) (before : Output) : Stop → Outcome
  | .help scope => ⟨0, before ++ [(.stdout, scope.help)], files⟩
  | .usage scope e => ⟨2, before ++ [(.stderr, e.text scope)], files⟩

theorem StartsIn.run_of_stop {around : Surroundings} {stamp : Stamp} {settings : Settings} {s : Session}
    (h : StartsIn around stamp settings s) {args : List String} {stop : Stop} (hargs : Invocation.parse args = .error stop) :
    run around stamp args = .ok (stopped s.logs.files s.logs.output stop) := by
  obtain ⟨s₀, hload, hopen⟩ := h
  rw [run, Run.whole, bind_of_eq_ok (step_of_eq_ok hload), bind_of_eq_ok (step_of_eq_ok hopen)]
  simp only [hargs]
  cases stop <;> rfl

/-- Under the default settings, a run starts in a session that drops messages about loading. -/
theorem exists_startsIn_default {around : Surroundings} {stamp : Stamp}
    (hsettings : Settings.load around.environment around.files [] = .ok Settings.default) :
    ∃ source, StartsIn around stamp Settings.default
      ⟨⟨Session.withLoggers Session.defaultRegistry, around.files, startOutput around.files⟩, around.environment, stamp,
        some source⟩ := by
  have hload := @Session.loadSettings_bare around.environment around.files stamp [] _ hsettings
  obtain ⟨source, hopen⟩ :=
    @Session.openLoggers_bare around.environment around.files stamp (Session.complaints around.files) hsettings
  exact ⟨source, _, hload, hopen⟩

theorem run_of_parse {around : Surroundings}
    (hsettings : Settings.load around.environment around.files [] = .ok Settings.default) (stamp : Stamp) {c : Command}
    {i : Invocation} (hargs : Invocation.parse [c.word, source] = .ok i) :
    (Escapes around.files (normalPath source) c → ∃ e, run around stamp [c.word, source] = .error e)
      ∧ (¬ Escapes around.files (normalPath source) c → ¬ StopsAtHalf around.files (normalPath source) →
        ∃ o, run around stamp [c.word, source] = .ok o
          ∧ Answers around.files (normalPath source) c (startOutput around.files) o) := by
  obtain ⟨source', hstart⟩ := @exists_startsIn_default around stamp hsettings
  have hquiet := @Session.quiet_withLoggers around.environment around.files stamp (startOutput around.files) (some source')
  have hwhole := hstart.whole_of_parse hargs
  rw [invocation_of_source hargs, act_eq] at hwhole
  refine ⟨fun h => ?_, fun h hhalf => ?_⟩
  · obtain ⟨e, s', he⟩ := withTree_of_escapes hquiet h
    exact ⟨e, by rw [run, hwhole, he]⟩
  · obtain ⟨code, s', hcode, hanswers⟩ := withTree_of_not_escapes hquiet h hhalf
    exact ⟨_, by rw [run, hwhole, hcode], hanswers⟩

/-- **Which faults are reported.** Texts with half a pair on its own are left aside; an escape spells it in each of them. Loading fails without a report exactly for the paths and files of `Unreported`, and a tree that was loaded is not documented exactly when a name in it cannot be ordered. Arguments that can be read, as they can whenever the source has no dash in front, are about that source. Under the default settings a run with one of the commands then is broken off in the cases above; in all others it ends with the code 0 and what the command shows, or with the code 1 and one line about the fault. A run whose arguments cannot be read ends with a help or with the usage, and loads nothing. -/
theorem run_answers_unless_escapes (around : Surroundings) (stamp : Stamp) (c : Command) (source : String) :
    (∀ path, ¬ StopsAtHalf around.files path →
        ((∃ e, load around.files path = .error e ∧ isReported e = false) ↔ Unreported around.files path))
      ∧ (∀ path, StopsAtHalf around.files path → ∃ bytes text, around.files.read path = .ok bytes
        ∧ Text.decode bytes = .ok text ∧ Json.SpellsHalf text)
      ∧ (∀ t, (∃ e, Record.build Settings.default t = .error e) ↔ Record.HasLongName t)
      ∧ (IsPlain source → ∃ i, Invocation.parse [c.word, source] = .ok i)
      ∧ (∀ i, Invocation.parse [c.word, source] = .ok i → i = ⟨none, some (c.action source)⟩)
      ∧ (Settings.load around.environment around.files [] = .ok Settings.default →
        (∀ stop, Invocation.parse [c.word, source] = .error stop →
          run around stamp [c.word, source] = .ok (stopped around.files (startOutput around.files) stop))
        ∧ ∀ i, Invocation.parse [c.word, source] = .ok i →
          (Escapes around.files (normalPath source) c → ∃ e, run around stamp [c.word, source] = .error e)
          ∧ (¬ Escapes around.files (normalPath source) c → ¬ StopsAtHalf around.files (normalPath source) →
            ∃ o, run around stamp [c.word, source] = .ok o
              ∧ Answers around.files (normalPath source) c (startOutput around.files) o)) := by
  refine ⟨fun path hhalf => Syntax.exists_unreported_iff.trans (or_iff_left hhalf), fun _ => StopsAtHalf.spelled,
    fun _ => exists_build_error_iff, fun hsource => ⟨_, parse_of_plain c hsource⟩, fun _ => invocation_of_source,
    fun hsettings => ⟨fun stop hargs => ?_, fun i hargs => run_of_parse hsettings stamp hargs⟩⟩
  obtain ⟨_, hstart⟩ := @exists_startsIn_default around stamp hsettings
  exact hstart.run_of_stop hargs

/-- A file that is no text, and one with an escaped pair. -/
def sampleFiles : Storage.Files :=
  [(⟨0, ["bytes.json"]⟩, .file [0xff]), (⟨0, ["pair.json"]⟩, .file "[\"\\ud83d\\ude00\"]".toUTF8.toList)]

def sampleStamp : Stamp := ⟨2024, 1, 1, 0, 0, 0, 0⟩

theorem settings_sampleFiles : Settings.load [] sampleFiles [] = .ok Settings.default := by decide +kernel

theorem unreported_sampleFiles : Unreported sampleFiles (normalPath "bytes.json") :=
  .undecodable (show sampleFiles.read (normalPath "bytes.json") = .ok [0xff] by decide +kernel)
    (show Text.decode [0xff] = .error ⟨0xff, 0, 1, .invalidStart⟩ by decide +kernel)

theorem load_missing :
    load sampleFiles (normalPath "missing.json") = .error (.unavailable (normalPath "missing.json") ⟨.notFound, "missing.json"⟩) :=
  Syntax.load_of_read_error (show _ = Except.error _ by decide +kernel)

theorem exists_load_pair : ∃ t, load sampleFiles (normalPath "pair.json") = .ok t := by
  have hok : (load sampleFiles (normalPath "pair.json")).isOk = true := by decide +kernel
  cases hload : load sampleFiles (normalPath "pair.json") with
  | error e =>
    rw [hload] at hok
    cases hok
  | ok t => exact ⟨t, rfl⟩

theorem reported_missing :
    ¬ (Unreported sampleFiles (normalPath "missing.json") ∨ StopsAtHalf sampleFiles (normalPath "missing.json")) := by
  rw [← Syntax.exists_unreported_iff]
  rintro ⟨e, hload, hreported⟩
  obtain rfl := Except.error.inj (load_missing.symm.trans hload)
  cases hreported

theorem reported_pair :
    ¬ (Unreported sampleFiles (normalPath "pair.json") ∨ StopsAtHalf sampleFiles (normalPath "pair.json")) := by
  rw [← Syntax.exists_unreported_iff]
  rintro ⟨e, hload, -⟩
  obtain ⟨t, ht⟩ := exists_load_pair
  cases ht.symm.trans hload

theorem not_escapes_missing : ¬ Escapes sampleFiles (normalPath "missing.json") .build := by
  rintro (h | ⟨hload, -⟩)
  · exact reported_missing (.inl h)
  · cases load_missing.symm.trans hload

theorem not_escapes_pair : ¬ Escapes sampleFiles (normalPath "pair.json") .dump := by
  rintro ⟨h⟩
  exact reported_pair (.inl h)

theorem run_sampleFiles :
    (∃ e, run ⟨[], sampleFiles⟩ sampleStamp ["dump", "bytes.json"] = .error e)
      ∧ (∃ o, run ⟨[], sampleFiles⟩ sampleStamp ["build", "missing.json"] = .ok o
        ∧ Answers sampleFiles "missing.json" .build [] o)
      ∧ (∃ o, run ⟨[], sampleFiles⟩ sampleStamp ["dump", "pair.json"] = .ok o ∧ Answers sampleFiles "pair.json" .dump [] o)
      ∧ run ⟨[], sampleFiles⟩ sampleStamp ["dump", "-x"] =
        .ok ⟨2, [(.stderr, UsageError.missingSource.text (.command .dump))], sampleFiles⟩ := by
  have hstart : startOutput sampleFiles = [] := by decide +kernel
  have hmissingPath : normalPath "missing.json" = "missing.json" := by decide +kernel
  have hpairPath : normalPath "pair.json" = "pair.json" := by decide +kernel
  refine ⟨?_, ?_, ?_, ?_⟩
  · obtain ⟨-, -, -, hplain, -, hrun⟩ := run_answers_unless_escapes ⟨[], sampleFiles⟩ sampleStamp .dump "bytes.json"
    obtain ⟨i, hargs⟩ := hplain (by decide)
    exact ((hrun settings_sampleFiles).2 i hargs).1 (.unreported unreported_sampleFiles)
  · obtain ⟨-, -, -, hplain, -, hrun⟩ := run_answers_unless_escapes ⟨[], sampleFiles⟩ sampleStamp .build "missing.json"
    obtain ⟨i, hargs⟩ := hplain (by decide)
    have hanswers := ((hrun settings_sampleFiles).2 i hargs).2 not_escapes_missing fun hhalf => reported_missing (.inr hhalf)
    rwa [hmissingPath, hstart] at hanswers
  · obtain ⟨-, -, -, hplain, -, hrun⟩ := run_answers_unless_escapes ⟨[], sampleFiles⟩ sampleStamp .dump "pair.json"
    obtain ⟨i, hargs⟩ := hplain (by decide)
    have hanswers := ((hrun settings_sampleFiles).2 i hargs).2 not_escapes_pair fun hhalf => reported_pair (.inr hhalf)
    rwa [hpairPath, hstart] at hanswers
  · obtain ⟨-, -, -, -, -, hrun⟩ := run_answers_unless_escapes ⟨[], sampleFiles⟩ sampleStamp .dump "-x"
    have hargs : Invocation.parse [Command.dump.word, "-x"] = .error (.usage (.command .dump) .missingSource) := by
      decide +kernel
    have hstopped := (hrun settings_sampleFiles).1 _ hargs
    rwa [hstart] at hstopped

/-- Not every fault in loading is reported, and a run is not always answered. -/
theorem not_always_reported :
    (¬ ∀ files path e, load files path = .error e → isReported e = true)
      ∧ ¬ ∀ (around : Surroundings) (stamp : Stamp) (c : Command) (source : String),
        Settings.load around.environment around.files [] = .ok Settings.default → IsPlain source →
          ∃ o, run around stamp [c.word, source] = .ok o ∧ (o.exitCode = 0 ∨ o.exitCode = 1) := by
  constructor
  · intro hall
    obtain ⟨e, hload, hreported⟩ := Syntax.exists_unreported_iff.mpr (.inl unreported_sampleFiles)
    rw [hall _ _ e hload] at hreported
    cases hreported
  · intro hall
    have hplain : IsPlain "bytes.json" := by decide
    obtain ⟨o, ho, -⟩ := hall ⟨[], sampleFiles⟩ sampleStamp .build "bytes.json" settings_sampleFiles hplain
    have hrun := @run_of_parse "bytes.json" ⟨[], sampleFiles⟩ settings_sampleFiles sampleStamp .build _
      (parse_of_plain .build hplain)
    obtain ⟨e, he⟩ := hrun.1 (.unreported unreported_sampleFiles)
    rw [ho] at he
    cases he

end ApiDoc.CommandLine
