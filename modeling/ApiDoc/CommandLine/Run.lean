import ApiDoc.CommandLine.Help
import ApiDoc.Json.Write
import ApiDoc.Logging.Journal
import ApiDoc.Record.Build
import ApiDoc.Record.Json
import ApiDoc.Syntax.Outline

/-!
# Runs of the program

What a run of the program does, given its surroundings and its arguments: what it writes to its two outputs and to files, and the code it exits with. A dump that cannot be loaded is reported, and never shown as an empty one.

* `run` is the whole program.
-/

namespace ApiDoc.CommandLine

open Logging (Output Session Sink Stamp)

/-- What the program can see outside: the environment and the files. -/
structure Surroundings where
  environment : List (String × String)
  files : Storage.Files
  deriving Repr, Inhabited

/-- What a run leaves: the code it exits with, what it wrote, and the files as they are then. -/
structure Outcome where
  exitCode : Nat
  output : Output
  files : Storage.Files
  deriving Repr, Inhabited

inductive RunError where
  | setup (e : Logging.SetupError)
  | load (e : Syntax.LoadError)
  | build (e : Record.BuildError)
  /-- A path for the output cannot be a path at all. -/
  | output (e : Storage.FileError)
  /-- There is nothing that the output could go to. -/
  | noDestination
  deriving Inhabited

def RunError.message : RunError → String
  | .setup e => e.message
  | .load e => e.message
  | .build e => e.message
  | .output e => e.message
  | .noDestination => "'list' object has no attribute 'write_text'"

/-- A run as it goes on. -/
abbrev Run := EStateM RunError Session

/-- Whether a fault in loading is reported. Any other one breaks the run off. So does half a pair on its own, as there is no telling what would be shown of it. -/
def isReported : Syntax.LoadError → Bool
  | .unavailable _ e => e.fault != .nullByte
  | .malformed _ cause _ => cause != .loneHalf
  | .notAList _ => true
  | .undecodable _ | .digits _ => false

namespace Run

def step {α : Type} (change : Logging.Step α) : Run α := fun s =>
  match change s with
  | .ok a s => .ok a s
  | .error e s => .error (.setup e) s

/-- Goes on with a result that changes nothing. -/
def lift {ε α : Type} (fault : ε → RunError) : Except ε α → Run α
  | .ok a => return a
  | .error e => throw (fault e)

def print (sink : Sink) (text : String) : Run Unit := step (Session.withLogs (Logging.Logs.print sink text))

def files : Run Storage.Files := return (← get).logs.files

/-- Goes on with a dump if it can be loaded. -/
def withTree (source : String) (k : Syntax.SourceTree → Run Nat) : Run Nat := do
  match Syntax.load (← files) source with
  | .ok t =>
    step (Session.tellOfTree t)
    k t
  | .error e =>
    if !isReported e then throw (.load e)
    print .stderr ("FAIL: could not process " ++ source ++ ": " ++ e.message ++ "\n")
    return 1

def textOf (docs : Record.Documentation) : String := String.ofList (Json.render docs.toJson ++ ['\n'])

def writeTo (path : String) (docs : Record.Documentation) : Run Nat := do
  match (← files).write path (textOf docs).toUTF8.toList with
  | .error e =>
    if e.fault == .nullByte then throw (.output e)
    print .stderr ("FAIL: could not write " ++ path ++ ": " ++ e.message ++ "\n")
    return 1
  | .ok files =>
    modify fun s => { s with logs := { s.logs with files } }
    step (Session.tellOfOutput docs.length path)
    return 0

/-- Builds the documentation of a dump, and writes it to a file or to standard output. -/
def build (settings : Settings) (source : String) (output : Destination) : Run Nat :=
  withTree source fun t => do
    let docs ← lift .build (Record.build settings t)
    match output with
    | .stdout =>
      print .stdout (textOf docs)
      return 0
    | .file path => writeTo (Storage.normalPath path) docs
    | .void => throw .noDestination

def dump (source : String) : Run Nat :=
  withTree source fun t => do
    print .stdout ("\n".intercalate t.outline ++ "\n")
    return 0

/-- The settings of a run: those it started with, unless there is a choice on the command line. -/
def chosenSettings (settings : Settings) : Option CommentSelection → Run Settings
  | none => return settings
  | some selection => step (Session.loadSettings [("comment_selection", Json.str selection.word)])

def act (settings : Settings) (i : Invocation) : Run Nat := do
  match i.action with
  | none =>
    print .stdout (Scope.help .program)
    return 1
  | some action =>
    let settings ← chosenSettings settings i.selection
    match action with
    | .build source output => build settings (Storage.normalPath source) output
    | .dump source => dump (Storage.normalPath source)

/-- The whole run. Settings are loaded and loggers are set up first, then the arguments are read. -/
def whole (args : List String) : Run Nat := do
  let settings ← step (Session.loadSettings [])
  step Session.openLoggers
  match Invocation.parse args with
  | .error (.help scope) =>
    print .stdout scope.help
    return 0
  | .error (.usage scope e) =>
    print .stderr (e.text scope)
    return 2
  | .ok i => act settings i

end Run

/-- A run of the program. -/
def run (around : Surroundings) (stamp : Stamp) (args : List String) : Except RunError Outcome :=
  match Run.whole args (Session.fresh around.environment around.files stamp) with
  | .error e _ => .error e
  | .ok exitCode s => .ok ⟨exitCode, s.logs.output, s.logs.files⟩

end ApiDoc.CommandLine
