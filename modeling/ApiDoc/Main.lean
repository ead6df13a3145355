import ApiDoc.CommandLine.Run
import Std.Time.Zoned

/-!
# The program

Looks at the files that a run can ask for, runs, and writes what the run leaves.
-/

namespace ApiDoc.CommandLine

open Storage (Entry Files Path)

/-- What stands at a path, if anything does. -/
def look (path : String) : IO (Option Entry) := do
  try
    let bytes ← IO.FS.readBinFile ⟨path⟩
    return some (.file bytes.toList)
  catch
    | .noFileOrDirectory .. => return none
    | .inappropriateType .. => return some .directory
    | e => throw e

/-- What stands at the places that a path leads through, up to the first that is no directory. -/
def survey (path : String) : IO Files := do
  let path := Path.ofString path
  let mut place : Path := ⟨min path.slashes 1, []⟩
  let mut files : Files := []
  for name in path.names do
    place := if name == ".." then place.parent else ⟨place.slashes, place.names ++ [name]⟩
    let some entry ← look place.text | break
    files := files ++ [(place, entry)]
    if entry != .directory then break
  return files

/-- The variables of the environment that settings come from. -/
def readEnvironment : IO (List (String × String)) := do
  let names := Setting.all.map fun s => s.variableName.map Char.toUpper
  names.filterMapM fun name => return (← IO.getEnv name).map fun value => (name, value)

def now : IO Logging.Stamp := do
  let t ← Std.Time.PlainDateTime.now
  return ⟨t.year.toInt.toNat, t.month.val.toNat, t.day.val.toNat, t.hour.val.toNat, t.minute.val.toNat,
    t.second.val.toNat, t.nanosecond.val.toNat / 1000000⟩

def pathsIn (args : List String) : List String :=
  match Invocation.parse args with
  | .ok ⟨_, some (.build source (.file path))⟩ => [source, path]
  | .ok ⟨_, some (.build source _)⟩ => [source]
  | .ok ⟨_, some (.dump source)⟩ => [source]
  | _ => []

/-- The paths of the files that the handlers of a logging configuration may write to. -/
def logFilesIn (files : Files) (config : String) : List String :=
  match Logging.readDocument files config with
  | .error _ => []
  | .ok document =>
    match document.get? "handlers" with
    | some (.map handlers) =>
      handlers.filterMap fun (_, handler) =>
        match handler.get? "filename" with
        | some (.str path) => some path
        | _ => none
    | _ => []

def surroundings (args : List String) : IO Surroundings := do
  let environment ← readEnvironment
  let settingsFile ← survey Settings.envFileName
  let config := match Settings.load environment settingsFile [] with
    | .ok s => s.loggingConfig.toList
    | .error _ => []
  let configFiles ← config.mapM survey
  let logFiles := config.flatMap (logFilesIn configFiles.flatten)
  let others ← (logFiles ++ pathsIn args).mapM survey
  return ⟨environment, settingsFile ++ configFiles.flatten ++ others.flatten⟩

/-- Writes the files that a run changed, and then its output. -/
def leave (before : Files) (o : Outcome) : IO Unit := do
  for (path, entry) in o.files do
    if before.lookup path != some entry then
      if let .file bytes := entry then IO.FS.writeBinFile ⟨path.text⟩ ⟨bytes.toArray⟩
  for (sink, text) in o.output do
    match sink with
    | .stdout => IO.print text
    | .stderr => IO.eprint text

end ApiDoc.CommandLine

open ApiDoc.CommandLine in
def main (args : List String) : IO UInt32 := do
  let around ← surroundings args
  match run around (← now) args with
  | .error e =>
    IO.eprintln e.message
    return 1
  | .ok o =>
    leave around.files o
    return o.exitCode.toUInt32
