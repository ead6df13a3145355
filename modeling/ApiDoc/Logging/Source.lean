import ApiDoc.Keyed
import ApiDoc.Logging.Configure
import ApiDoc.Settings.Load
import ApiDoc.Yaml.Read

/-!
# Where the configuration of loggers comes from

A configuration is read from a YAML file if there is one, and built from the settings otherwise. In a file the loggers of the package may go by short names; they are replaced by full ones. The configuration is read once.

* `qualify` replaces short names.
* `LogSource.load` gives the mapping, and `LogSource.apply` applies it.
-/

namespace ApiDoc.Logging

open Yaml (Scalar Value)

/-! ## Names -/

/-- The short name of the package logger. -/
def packageName : String := "phpdoc_tree"

/-- The name above all loggers of the package. -/
def familyName : String := "prefect"

/-- Whether a name is a short name of the package logger or of a logger below it. -/
def isPackageName (name : String) : Bool := name == packageName || isBelow packageName name

/-- The full name of a logger: below the family name, unless it is there already. -/
def fullName (name : String) : String :=
  if name.isEmpty then familyName
  else if isBelow familyName name then name
  else familyName ++ "." ++ name

/-- The full name of the package logger. -/
def packageLogger : String := fullName packageName

/-- The name that a section of a file is kept under. -/
def sectionName (name : String) : String := if isPackageName name then fullName name else name

/-- Replaces the short names of sections by full ones. Of two sections that get the same name, the place of the first and the content of the last count. -/
def qualify {α : Type} (sections : Keyed α) : Keyed α := Keyed.ofList (sections.map fun s => (sectionName s.1, s.2))

/-! ## Errors -/

inductive SetupError where
  | settings (e : SettingsError)
  /-- The file cannot be read. -/
  | unavailable (e : Storage.FileError)
  /-- The file is no text. -/
  | undecodable (e : Text.Utf8Error)
  /-- The text has no value. -/
  | yaml (e : Yaml.Error)
  /-- The document is no mapping. -/
  | notAMapping (v : Value)
  /-- The section of the loggers is no mapping. -/
  | loggersNotAMapping (v : Value)
  /-- The name of a logger is no string. -/
  | nameNotAString (s : Scalar)
  /-- The mapping cannot be applied. -/
  | config (e : ConfigError)
  /-- There is no level of this name. -/
  | unknownLevel (name : String)
  /-- A record cannot be taken. -/
  | emit (e : EmitError)
  deriving Inhabited

/-- The message for a value that lacks what was asked of it. -/
def lacks (v : Value) (member : String) : String :=
  "'" ++ v.kindName ++ "' object has no attribute '" ++ member ++ "'"

def SetupError.message : SetupError → String
  | .settings e => e.message
  | .unavailable e => e.message
  | .undecodable e => e.message
  | .yaml e => e.message
  | .notAMapping v => lacks v "get"
  | .loggersNotAMapping v => lacks v "items"
  | .nameNotAString s => lacks (.scalar s) "startswith"
  | .config e => e.message
  | .unknownLevel name => "Unknown level: " ++ Text.quotedString name
  | .emit e => e.message

/-! ## Files and defaults -/

/-- A source of a configuration: the path of a file, the settings for the case that there is none, and the mapping once it is read. -/
structure LogSource where
  path : Option String
  settings : Settings
  mapping : Option Value
  deriving Inhabited

/-- A change of the loggers by setting them up. -/
abbrev SettingUp := Logs SetupError

/-- A source: a path that is given comes before the one in the settings. -/
def LogSource.of (path : Option String) (settings : Settings) : LogSource :=
  ⟨path.map Storage.normalPath <|> settings.loggingConfig, settings, none⟩

/-- The mapping for the case that there is no file: the package logger writes to standard error, and keeps its records to itself. -/
def defaultMapping (settings : Settings) : Value :=
  .map [(.str "version", .int 1),
    (.str "disable_existing_loggers", .bool false),
    (.str "formatters", .map [(.str "standard", .map [
      (.str "format", .str "%(asctime)s.%(msecs)03d | %(levelname)-7s | %(name)s - %(message)s"),
      (.str "datefmt", .str "%H:%M:%S")])]),
    (.str "handlers", .map [(.str "console", .map [
      (.str "class", .str "logging.StreamHandler"),
      (.str "formatter", .str "standard"),
      (.str "stream", .str "ext://sys.stderr")])]),
    (.str "loggers", .map [(.str packageLogger, .map [
      (.str "level", .str settings.logLevel.word),
      (.str "handlers", .list [.str "console"]),
      (.str "propagate", .bool false)])])]

/-- A value, or an empty mapping in place of one that counts as false. -/
def orEmpty (v : Value) : Value := if v.isTruthy then v else .map []

/-- The sections of loggers with their names. A logger is made for each short name on the way. -/
def namedSections : List (Scalar × Value) → SettingUp (Keyed Value)
  | [] => return []
  | (.str name, v) :: rest => do
    if isPackageName name then Logs.modifyRegistry fun r => (r.ensure familyName).ensure (fullName name)
    return (name, v) :: (← namedSections rest)
  | (key, _) :: _ => throw (.nameNotAString key)

/-- The mapping of a document, with full names in the section of the loggers. -/
def mappingOf (document : Value) : SettingUp Value := do
  let .map entries := orEmpty document | throw (.notAMapping document)
  let loggers := (Value.find? (.str "loggers") entries).getD .null
  let .map sections := orEmpty loggers | throw (.loggersNotAMapping loggers)
  let sections := qualify (← namedSections sections)
  return .map (Value.put (.str "loggers") (.map (sections.map fun s => (.str s.1, s.2))) entries)

def readDocument (files : Storage.Files) (path : String) : Except SetupError Value := do
  let bytes ← (files.read path).mapError .unavailable
  let text ← (Text.decodeInChunks bytes).mapError .undecodable
  (Yaml.read text).mapError .yaml

/-- Whether there is a file for a source. A path that cannot be looked at is a fault. -/
def hasFile (files : Storage.Files) (path : String) : Except SetupError Bool :=
  match files.exists path with
  | .ok isThere => .ok isThere
  | .error e => .error (.unavailable e)

/-- Reads the mapping of a source that was not read before. -/
def LogSource.readMapping (source : LogSource) : SettingUp Value := do
  let files := (← get).files
  let path ← Logs.lift (source.path.filterM (hasFile files))
  match path with
  | some path => mappingOf (← Logs.lift (readDocument files path))
  | none =>
    Logs.modifyRegistry fun r => (r.ensure familyName).ensure packageLogger
    return defaultMapping source.settings

/-- The mapping of a source, and the source with it. -/
def LogSource.load (source : LogSource) : SettingUp (Value × LogSource) :=
  match source.mapping with
  | some mapping => return (mapping, source)
  | none => do
    let mapping ← source.readMapping
    return (mapping, { source with mapping := some mapping })

def applyMapping (mapping : Value) : SettingUp Unit := Logs.mapError .config (configure mapping)

end ApiDoc.Logging
