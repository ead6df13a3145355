import ApiDoc.Logging.Source

/-!
# Sessions of logging

The loggers of a run of the program, what the run can see, and the source that was set up last. A source counts as set up from the moment it is found, whether or not its configuration can be applied then. Asking for a logger sets up the default source if none was set up before.

* `setup` sets up a source.
* `openLogger` asks for a logger, and `log` gives it a message.
-/

namespace ApiDoc.Logging

/-- The state of a run: its loggers and files, the environment, the time, and the source that was set up last. -/
structure Session where
  logs : LogState
  environment : List (String × String)
  clock : Stamp
  source : Option LogSource
  deriving Inhabited

/-- A step of a session, which can fail half way. -/
abbrev Step := EStateM SetupError Session

namespace Session

/-- Does something with the loggers and files of a session. -/
def withLogs {α : Type} (change : SettingUp α) : Step α := fun s =>
  match change s.logs with
  | .ok a logs => .ok a { s with logs }
  | .error e logs => .error e { s with logs }

def modifyRegistry (f : Registry → Registry) : Step Unit := withLogs (Logs.modifyRegistry f)

/-- Gives a message to the logger of a full name. -/
def log (name : String) (level : Level) (message : Message) : Step Unit := do
  modifyRegistry (·.ensure name)
  let s ← get
  let logger := (s.logs.registry.get name).name
  withLogs (Logs.mapError .emit
    (emit ⟨logger, level, message.template, message.arguments, message.text, s.clock⟩))

/-- The name of the logger that speaks of environment files. -/
def envFileLogger : String := "dotenv.main"

/-- Tells of the lines of the environment file that cannot be read. -/
def warnOfEnvFile : Step Unit := do
  (Settings.envFileFaults (← get).logs.files).forM fun line => do
    let template := "python-dotenv could not parse statement starting at line %s"
    let text := "python-dotenv could not parse statement starting at line " ++ toString line
    log envFileLogger .warning ⟨.text template, [.int line], text⟩

def loadSettings (values : List (String × Json)) : Step Settings := do
  warnOfEnvFile
  let s ← get
  match Settings.load s.environment s.logs.files values with
  | .error e => throw (.settings e)
  | .ok settings => return settings

/-- Sets a session up from a source that was found. -/
def start (source : LogSource) : Step Unit := do
  modify fun s => { s with source := some source }
  let (mapping, source) ← withLogs source.load
  modify fun s => { s with source := some source }
  withLogs (applyMapping mapping)

/-- Sets the level of the package logger by name, in any case. -/
def setLevel (name : String) : Step Unit := do
  let word := String.ofList (Text.upperAll name.toList)
  modifyRegistry fun r => (r.ensure familyName).ensure packageLogger
  let some level := levelOf? word | throw (.unknownLevel word)
  modifyRegistry (·.modify packageLogger fun l => { l with level })

/-- Sets the loggers up, from a file if a path is given, and with a level for the package logger if one is given. -/
def setup (path level : Option String) : Step Unit := do
  start (.of path (← loadSettings []))
  match level with
  | some name => if name.isEmpty then return else setLevel name
  | none => return

/-- Asks for a logger by a name that is made full, and gives its full name. -/
def openLogger (name : String) : Step String := do
  if (← get).source.isNone then setup none none
  modifyRegistry fun r => (r.ensure familyName).ensure (fullName name)
  return fullName name

def fresh (environment : List (String × String)) (files : Storage.Files) (clock : Stamp) : Session :=
  ⟨⟨(Registry.empty.ensure envFileLogger).ensure familyName, files, []⟩, environment, clock, none⟩

/-- The short name of the logger that speaks of loading dumps. -/
def loaderName : String := "phpdoc_tree.source_tree.php_parser_json"

/-- The short name of the logger that speaks of the command line. -/
def commandName : String := "phpdoc_tree.docs_generator.cli"

/-- Opens the two loggers of the program. -/
def openLoggers : Step Unit := do
  let _ ← openLogger loaderName
  let _ ← openLogger commandName

end Session

end ApiDoc.Logging
