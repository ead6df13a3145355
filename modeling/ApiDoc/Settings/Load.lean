import ApiDoc.Json.Read
import ApiDoc.Settings.Basic
import ApiDoc.Settings.EnvFile
import ApiDoc.Storage.Files
import ApiDoc.Text.Case
import ApiDoc.Text.Utf8

/-!
# Where settings come from

Settings are given by name. A value given directly comes first, then the environment, then the environment file of the working directory, then the default. Names in the environment carry a marker in front and are compared without regard to case.

Lists of patterns are written as JSON in the environment and in the environment file; text there that is no JSON is refused even if it would not be used.
-/

namespace ApiDoc

/-- The settings by name, in the order in which problems are reported. -/
inductive Setting where
  | commentSelection
  | ignoredLinePatterns
  | droppedNotePatterns
  | logLevel
  | loggingConfig
  deriving DecidableEq, Repr, Inhabited

namespace Setting

def all : List Setting := [.commentSelection, .ignoredLinePatterns, .droppedNotePatterns, .logLevel, .loggingConfig]

/-- The name of a setting. -/
def name : Setting → String
  | .commentSelection => "comment_selection"
  | .ignoredLinePatterns => "ignored_line_patterns"
  | .droppedNotePatterns => "dropped_note_patterns"
  | .logLevel => "log_level"
  | .loggingConfig => "logging_config"

/-- The name of a setting in the environment, in lower case. -/
def variableName (s : Setting) : String := "phpdoc_tree_" ++ s.name

/-- Whether a setting is written as JSON in the environment. -/
def isList : Setting → Bool
  | .ignoredLinePatterns | .droppedNotePatterns => true
  | _ => false

end Setting

inductive SettingsSource where
  | environment
  | environmentFile
  deriving DecidableEq, Repr, Inhabited

def SettingsSource.name : SettingsSource → String
  | .environment => "EnvSettingsSource"
  | .environmentFile => "DotEnvSettingsSource"

inductive Problem where
  | selectionWord
  | levelWord
  | notAList (s : Setting)
  | notAString (s : Setting) (index : Nat)
  | notAPath
  /-- An attempt to change settings that are in force. -/
  | frozen (name : String)
  deriving DecidableEq, Repr, Inhabited

namespace Problem

def name : Problem → String
  | .selectionWord => Setting.commentSelection.name
  | .levelWord => Setting.logLevel.name
  | .notAList s => s.name
  | .notAString s _ => s.name
  | .notAPath => Setting.loggingConfig.name
  | .frozen name => name

/-- The item of a list that a problem is about. -/
def index? : Problem → Option Nat
  | .notAString _ index => some index
  | _ => none

def kind : Problem → String
  | .selectionWord => "literal_error"
  | .levelWord => "literal_error"
  | .notAList _ => "tuple_type"
  | .notAString .. => "string_type"
  | .notAPath => "path_type"
  | .frozen _ => "frozen_instance"

def message : Problem → String
  | .selectionWord => "Input should be 'first' or 'last'"
  | .levelWord => "Input should be 'DEBUG', 'INFO', 'WARNING', 'ERROR' or 'CRITICAL'"
  | .notAList _ => "Input should be a valid tuple"
  | .notAString .. => "Input should be a valid string"
  | .notAPath => "Input is not a valid path for <class 'pathlib.Path'>"
  | .frozen _ => "Instance is frozen"

end Problem

inductive SettingsError where
  /-- A list in a source is no JSON. -/
  | unreadable (s : Setting) (source : SettingsSource)
  /-- The environment file is no text. -/
  | undecodable (e : Text.Utf8Error)
  /-- Values do not fit, or settings in force were to be changed. -/
  | invalid (problems : List Problem)
  deriving DecidableEq, Repr, Inhabited

def SettingsError.message : SettingsError → String
  | .unreadable s source =>
    "error parsing value for field \"" ++ s.name ++ "\" from source \"" ++ source.name ++ "\""
  | .undecodable e => e.message
  | .invalid problems => "\n".intercalate (problems.map Problem.message)

namespace Settings

/-! ## Checking values -/

def selectionOf : Json → Except (List Problem) CommentSelection
  | .str s =>
    match [CommentSelection.first, .last].find? fun c => c.word == s with
    | some c => .ok c
    | none => .error [.selectionWord]
  | _ => .error [.selectionWord]

/-- Reads a level, in any case. -/
def levelOf : Json → Except (List Problem) LogLevel
  | .str s =>
    let word := String.ofList (Text.upperAll s.toList)
    match [LogLevel.debug, .info, .warning, .error, .critical].find? fun l => l.word == word with
    | some l => .ok l
    | none => .error [.levelWord]
  | _ => .error [.levelWord]

/-- Reads the items of a list of patterns from an index on. -/
def patternItems (s : Setting) : Nat → List Json → List Problem × List String
  | _, [] => ([], [])
  | index, item :: rest =>
    let (problems, texts) := patternItems s (index + 1) rest
    match item with
    | .str text => (problems, text :: texts)
    | _ => (.notAString s index :: problems, texts)

def patternsOf (s : Setting) : Json → Except (List Problem) (List String)
  | .arr items =>
    match patternItems s 0 items with
    | ([], texts) => .ok texts
    | (problems, _) => .error problems
  | _ => .error [.notAList s]

/-- Reads the path of a logging configuration; null means there is none. -/
def configOf : Json → Except (List Problem) (Option String)
  | .null => .ok none
  | .str s => .ok (some (Storage.normalPath s))
  | _ => .error [.notAPath]

/-- Checks a value if there is one, with a default otherwise. -/
def checked {α : Type} (check : Json → Except (List Problem) α) (fallback : α) :
    Option Json → Except (List Problem) α
  | none => .ok fallback
  | some j => check j

/-- The problems of a check. -/
def problemsOf {α : Type} : Except (List Problem) α → List Problem
  | .ok _ => []
  | .error problems => problems

/-- Checks the values of all settings; all problems are reported. -/
def ofValues (value? : Setting → Option Json) : Except SettingsError Settings :=
  let selection := checked selectionOf default.commentSelection (value? .commentSelection)
  let ignored := checked (patternsOf .ignoredLinePatterns) default.ignoredLinePatterns (value? .ignoredLinePatterns)
  let notes := checked (patternsOf .droppedNotePatterns) default.droppedNotePatterns (value? .droppedNotePatterns)
  let level := checked levelOf default.logLevel (value? .logLevel)
  let config := checked configOf default.loggingConfig (value? .loggingConfig)
  match selection, ignored, notes, level, config with
  | .ok selection, .ok ignored, .ok notes, .ok level, .ok config => .ok ⟨selection, ignored, notes, level, config⟩
  | _, _, _, _, _ =>
    .error (.invalid (problemsOf selection ++ problemsOf ignored ++ problemsOf notes ++ problemsOf level
      ++ problemsOf config))

/-! ## Finding values -/

/-- A text in lower case, as far as names of settings go. -/
def lowerName (s : String) : String := String.ofList (s.toList.map Char.toLower)

/-- The last value under a name in lower case. -/
def lookupName {α : Type} (name : String) (entries : List (String × α)) : Option α :=
  (entries.reverse.find? fun e => lowerName e.1 == name).map Prod.snd

/-- The value given directly for a setting, in any case. Of several the first counts. -/
def given? (values : List (String × Json)) (s : Setting) : Option Json :=
  (values.find? fun e => lowerName e.1 == s.name).map Prod.snd

/-- The value of a setting in a source. A list that is JSON null counts as missing. -/
def sourceValue (source : SettingsSource) (entries : List (String × String)) (s : Setting) :
    Except SettingsError (Option Json) :=
  match lookupName s.variableName entries with
  | none => .ok none
  | some text =>
    if s.isList then
      match Json.parse text.toList with
      | .error _ => .error (.unreadable s source)
      | .ok .null => .ok none
      | .ok j => .ok (some j)
    else .ok (some (.str text))

def sourceValues (source : SettingsSource) (entries : List (String × String)) :
    Except SettingsError (List (Setting × Json)) := do
  let found ← Setting.all.mapM fun s => return (← sourceValue source entries s).map fun j => (s, j)
  return found.filterMap id

def envFileName : String := ".env"

/-- The text of the environment file, if there is one. -/
def envFileText (files : Storage.Files) : Except SettingsError (Option (List Char)) :=
  match files.read envFileName with
  | .error _ => .ok none
  | .ok bytes =>
    match Text.decode bytes with
    | .error e => .error (.undecodable e)
    | .ok text => .ok (some text)

/-- The names of the environment file that have values. Of names that differ in case only, the last one counts, even if it has no value. -/
def envFileEntries (environment : List (String × String)) (text : List Char) : List (String × String) :=
  let entries := Keyed.ofList ((EnvFile.parse environment text).map fun e => (lowerName e.1, e.2))
  entries.filterMap fun e => e.2.map fun value => (e.1, value)

/-- The lines of the environment file in which statements start that cannot be read. -/
def envFileFaults (files : Storage.Files) : List Nat :=
  match envFileText files with
  | .ok (some text) => EnvFile.faults text
  | _ => []

/-- The settings, from values given directly, the environment and the environment file. -/
def load (environment : List (String × String)) (files : Storage.Files) (values : List (String × Json)) :
    Except SettingsError Settings := do
  let text ← envFileText files
  let entries := (text.map (envFileEntries environment)).getD []
  let fromEnvironment ← sourceValues .environment environment
  let fromFile ← sourceValues .environmentFile entries
  ofValues fun s => given? values s <|> fromEnvironment.lookup s <|> fromFile.lookup s

end Settings

end ApiDoc
