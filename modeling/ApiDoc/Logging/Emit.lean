import ApiDoc.Logging.Registry
import ApiDoc.Storage.Files

/-!
# Emitting records

What happens to a record that a logger is given: the handlers in its reach take it one after another. They write to the outputs and to files, or keep the record. When no handler is in reach, a severe message is shown by itself.

* `emit` takes a record, and `closeHandlers` closes the handlers that were made.
-/

namespace ApiDoc.Logging

/-- The loggers and handlers, the files that they write to, and what was written to the two outputs. -/
structure LogState where
  registry : Registry
  files : Storage.Files
  output : Output
  deriving Inhabited

/-- A step that can fail half way; what was done before stays done. -/
abbrev Logs (ε : Type) := EStateM ε LogState

namespace Logs

variable {ε δ α : Type}

def lift : Except ε α → Logs ε α
  | .ok a => return a
  | .error e => throw e

/-- Takes a step whose errors are told in other words. -/
def mapError (f : δ → ε) (step : Logs δ α) : Logs ε α := fun s =>
  match step s with
  | .ok a s => .ok a s
  | .error e s => .error (f e) s

def modifyRegistry (f : Registry → Registry) : Logs ε Unit := modify fun s => { s with registry := f s.registry }

def print (sink : Sink) (text : String) : Logs ε Unit := modify fun s => { s with output := s.output ++ [(sink, text)] }

end Logs

/-! ## Files -/

namespace LogFile

/-- The files after this one is opened, if it can be. -/
def opened? (f : LogFile) (files : Storage.Files) : Option Storage.Files :=
  let fresh : Option Storage.Files := (files.write f.path []).toOption
  let isThere := (files.read f.path).toOption.isSome
  if f.encoding == .unknown then none
  else match f.mode with
    | .append => if isThere then some files else fresh
    | .truncate => fresh
    | .create => if isThere then none else fresh
    | .read => if isThere then some files else none

def bytes (f : LogFile) (files : Storage.Files) : List UInt8 := (files.read f.path).toOption.getD []

/-- The files after a text is written to this one; some texts cannot be written. -/
def written (f : LogFile) (text : String) (files : Storage.Files) : Storage.Files :=
  match f.encoding.encode? text with
  | none => files
  | some new =>
    if f.takesText && f.mode != .read then ((files.write f.path (f.bytes files ++ new)).toOption).getD files
    else files

/-- The path of an old file. -/
def backupPath (f : LogFile) (n : Nat) : String := f.path ++ "." ++ toString n

/-- Renames a file if it is there. -/
def renamed (source target : String) (files : Storage.Files) : Storage.Files :=
  match files.read source with
  | .error _ => files
  | .ok bytes => ((files.remove source).write target bytes).toOption.getD files

/-- Puts a file aside, and the old files with it. -/
def rotated (f : LogFile) (backups : Nat) (files : Storage.Files) : Storage.Files :=
  if backups == 0 then files
  else
    let older := (List.range (backups - 1)).reverse.foldl
      (fun files i => renamed (f.backupPath (i + 1)) (f.backupPath (i + 2)) files) files
    renamed f.path (f.backupPath 1) older

/-- Whether a line does not fit into the file any more. -/
def isFull (f : LogFile) (rotation : Rotation) (line : List Char) (files : Storage.Files) : Bool :=
  rotation.size > 0 && (f.bytes files).length + line.length + 1 ≥ rotation.size

/-- Opens the file unless it is open. One that was truncated is not opened again. -/
def reopened (f : LogFile) (files : Storage.Files) : LogFile × Storage.Files :=
  if f.isOpen || (f.mode == .truncate && f.wasClosed) then (f, files)
  else match f.opened? files with
    | some files => ({ f with isOpen := true }, files)
    | none => (f, files)

/-- Writes a line, which is missing if the record cannot be shown. -/
def take (f : LogFile) (line : Option (List Char)) (terminator : Option String) (files : Storage.Files) :
    LogFile × Storage.Files :=
  let (f, files) := f.reopened files
  match line, terminator with
  | some line, some terminator =>
    let (f, files) := match f.rotation with
      | some rotation =>
        if f.isOpen && f.isFull rotation line files then
          { f with isOpen := false }.reopened (f.rotated rotation.backups files)
        else (f, files)
      | none => (f, files)
    if f.isOpen then (f, f.written (String.ofList line ++ terminator) files) else (f, files)
  | _, _ => (f, files)

end LogFile

/-! ## Handlers -/

def setOutlet (id : Nat) (outlet : Outlet) : Logs EmitError Unit :=
  Logs.modifyRegistry fun r => r.modifyHandler id fun h => { h with outlet }

/-- Whether a buffer is to be emptied after a record came in. -/
def Buffer.isDue (b : Buffer) (record : LogRecord) : Except EmitError Bool := do
  if ← b.capacity.isReached b.records.length then return true
  match b.severe with
  | some level => level.isReached record.level.rank
  | none => return false

/-- Empties a buffer. One that passes records on keeps them while it has no target. -/
def emptyBuffer (passOn : Nat → LogRecord → Logs EmitError Unit) (id : Nat) (b : Buffer) : Logs EmitError Unit := do
  if b.severe.isNone then setOutlet id (.buffer { b with records := [] })
  else match b.target with
    | .nothing => return
    | .unusable kind => if b.records.isEmpty then return else throw (.notAHandler kind)
    | .handler target =>
      b.records.forM (passOn target)
      setOutlet id (.buffer { b with records := [] })

/-- Gives a record to a handler, whatever its level. A handler passes records on to at most `fuel` others. -/
def handle : (fuel : Nat) → Nat → LogRecord → Logs EmitError Unit
  | 0, _, _ => return
  | fuel + 1, id, record => do
    let some h := (← get).registry.handlers[id]? | return
    if let .nowhere := h.outlet then return
    if !(← Logs.lift (acceptedByAll record.logger h.filters)) then return
    match h.outlet with
    | .nowhere => return
    | .unimplemented => throw .unimplemented
    | .stream sink =>
      match h.layout.render record, h.terminator with
      | some line, some terminator => Logs.print sink (String.ofList line ++ terminator)
      | _, _ => return
    | .file f =>
      let (f, files) := f.take (h.layout.render record) h.terminator (← get).files
      modify fun s => { s with files }
      setOutlet id (.file f)
    | .buffer b =>
      let b := { b with records := b.records ++ [record] }
      setOutlet id (.buffer b)
      if ← Logs.lift (b.isDue record) then emptyBuffer (handle fuel) id b

/-- Gives a record to a handler if its level is high enough. -/
def offer (record : LogRecord) (id : Nat) : Logs EmitError Unit := do
  let handlers := (← get).registry.handlers
  let some h := handlers[id]? | return
  if ← Logs.lift (h.level.isReached record.level.rank) then handle (handlers.length + 1) id record

/-- Takes a record. When no handler is in reach, a severe message is shown by itself. -/
def emit (record : LogRecord) : Logs EmitError Unit := do
  let r := (← get).registry
  if !r.takes record.logger record.level then return
  if !(← Logs.lift (acceptedByAll record.logger (r.get record.logger).filters)) then return
  match Registry.reached (r.lineage record.logger) with
  | [] => if record.level.rank ≥ Level.warning.rank then Logs.print .stderr (record.message ++ "\n")
  | ids => ids.forM (offer record)

/-- Closes a handler: a buffer is emptied and passes nothing on any more, and a file is closed. -/
def closeHandler (id : Nat) : Logs EmitError Unit := do
  let handlers := (← get).registry.handlers
  let some h := handlers[id]? | return
  match h.outlet with
  | .buffer b =>
    emptyBuffer (handle (handlers.length + 1)) id b
    Logs.modifyRegistry fun r => r.modifyHandler id fun h =>
      match h.outlet with
      | .buffer b => { h with outlet := .buffer { b with target := .nothing } }
      | _ => h
  | .file f => setOutlet id (.file { f with isOpen := false, wasClosed := true })
  | _ => return

/-- Closes the handlers that were made, the last one first. None can be found by name after that. -/
def closeHandlers : Logs EmitError Unit := do
  Logs.modifyRegistry fun r => { r with named := [] }
  (← get).registry.unclosed.reverse.forM closeHandler
  Logs.modifyRegistry fun r => { r with unclosed := [] }

end ApiDoc.Logging
