import ApiDoc.Logging.Config.Formatter
import ApiDoc.Logging.Emit

/-!
# Handlers from a configuration

How the sections for handlers are read. A section names the kind of its handler, and gives the settings that this kind has. A handler that passes records on may have to wait for the one it passes them to.

* `HandlerKind` are the kinds of handlers, and `makeHandler` makes a handler.
-/

namespace ApiDoc.Logging

open Yaml (Scalar)

/-! ## Kinds of handlers -/

/-- The kinds of handlers. -/
inductive HandlerKind where
  | plain
  | null
  | stream
  | file
  | rotating
  | timed
  | watched
  | buffering
  | memory
  /-- A handler that sends records away. -/
  | remote (needed allowed : List String)
  deriving DecidableEq, Repr, Inhabited

namespace HandlerKind

def ofName? (name : String) : Option HandlerKind :=
  match name with
  | "logging.Handler" => some .plain
  | "logging.NullHandler" => some .null
  | "logging.StreamHandler" => some .stream
  | "logging.FileHandler" => some .file
  | "logging.handlers.RotatingFileHandler" => some .rotating
  | "logging.handlers.TimedRotatingFileHandler" => some .timed
  | "logging.handlers.WatchedFileHandler" => some .watched
  | "logging.handlers.BufferingHandler" => some .buffering
  | "logging.handlers.MemoryHandler" => some .memory
  | "logging.handlers.SocketHandler" | "logging.handlers.DatagramHandler" => some (.remote ["host", "port"] [])
  | "logging.handlers.SysLogHandler" => some (.remote [] ["address", "facility", "socktype"])
  | "logging.handlers.NTEventLogHandler" => some (.remote ["appname"] ["dllname", "logtype"])
  | "logging.handlers.SMTPHandler" =>
    some (.remote ["mailhost", "fromaddr", "toaddrs", "subject"] ["credentials", "secure", "timeout"])
  | "logging.handlers.HTTPHandler" =>
    some (.remote ["host", "url"] ["method", "secure", "credentials", "context"])
  | "logging.handlers.QueueHandler" => some (.remote ["queue"] [])
  | _ => none

/-- The settings that a kind needs, and those that it allows. -/
def settings : HandlerKind → List String × List String
  | .plain | .null => ([], [])
  | .stream => ([], ["stream"])
  | .file | .watched => (["filename"], ["mode", "encoding", "delay", "errors"])
  | .rotating => (["filename"], ["mode", "maxBytes", "backupCount", "encoding", "delay", "errors"])
  | .timed =>
    (["filename"], ["when", "interval", "backupCount", "encoding", "delay", "utc", "atTime", "errors"])
  | .buffering => (["capacity"], [])
  | .memory => (["capacity"], ["flushLevel", "target", "flushOnClose"])
  | .remote needed allowed => (needed, allowed)

end HandlerKind

/-! ## Files -/

/-- How a file is opened, and whether it takes text. -/
def openModeOf? (mode : String) : Option (OpenMode × Bool) := do
  let letters := mode.toList
  let count (c : Char) : Nat := letters.count c
  if !letters.all fun c => "rwax+tb".toList.contains c && count c == 1 then none
  if count 't' + count 'b' > 1 || count 'r' + count 'w' + count 'a' + count 'x' != 1 then none
  let mode : OpenMode :=
    if count 'a' == 1 then .append else if count 'w' == 1 then .truncate else if count 'x' == 1 then .create else .read
  return (mode, count 'b' == 0)

def encodingOf (name : String) : Encoding :=
  let plain := String.ofList ((name.toList.map Char.toLower).map fun c => if c == '_' || c == ' ' then '-' else c)
  if ["utf-8", "utf8", "u8", "utf", "locale"].contains plain then .utf8
  else if ["latin-1", "latin1", "iso-8859-1", "iso8859-1", "8859", "l1", "cp819", "latin"].contains plain then .latin1
  else if ["ascii", "us-ascii", "646"].contains plain then .ascii
  else .unknown

def encodingIn? : Option ConfigItem → Option Encoding
  | none | some .null => some .utf8
  | some (.text name) => some (encodingOf name)
  | some _ => none

def numberIn? (fallback : Int) : Option ConfigItem → Option Int
  | none => some fallback
  | some (.int n) => some n
  | some (.bool b) => some (if b then 1 else 0)
  | some (.scalar (.float x)) => x.toInt?
  | some _ => none

/-- Whether a word says when a file is put aside. -/
def isRhythm (word : String) : Bool :=
  match word.toList.map Char.toUpper with
  | ['W', day] => '0' ≤ day && day ≤ '6'
  | letters => ["S", "M", "H", "D", "MIDNIGHT"].contains (String.ofList letters)

/-- The file that settings describe. -/
def logFileOf? (args : Arguments) (rotation : Option Rotation) : Option LogFile := do
  let .text path ← args.lookup "filename" | none
  let .text mode := (args.lookup "mode").getD (.text "a") | none
  let isLazy := ((args.lookup "delay").map ConfigItem.isTruthy).getD false
  let encoding ← encodingIn? (args.lookup "encoding")
  let limited := rotation.any fun r => r.size > 0
  let (mode, takesText) ← if limited then some (.append, true) else openModeOf? mode
  return ⟨path, mode, takesText, encoding, rotation, isLazy, false, false⟩

/-- Opens a file, unless that is left for later. -/
def fileOutlet? (file : LogFile) (files : Storage.Files) : Option (Outlet × Storage.Files) :=
  if file.isLazy then some (.file file, files)
  else (file.opened? files).map fun files => (.file { file with isOpen := true }, files)

/-! ## What a handler does -/

/-- Where the records of a buffer go. -/
def targetOf : Option ConfigItem → Target
  | some (.handler id) => .handler id
  | some item => if item.isTruthy then .unusable item.kindName else .nothing
  | none => .nothing

/-- Whether a handler that sends records away can be made. -/
def canSend (args : Arguments) : Bool :=
  let isMethod : ConfigItem → Bool
    | .text s => ["GET", "POST"].contains (String.ofList (s.toList.map Char.toUpper))
    | _ => false
  let isSocketPath : ConfigItem → Bool
    | .text _ => true
    | _ => false
  (args.lookup "method").all isMethod && !(args.lookup "address").any isSocketPath

/-- What a handler of some kind does with the settings it is given, and the files after it is made. -/
def outletOf? (kind : HandlerKind) (args : Arguments) (files : Storage.Files) : Option (Outlet × Storage.Files) := do
  if !args.fit kind.settings.1 kind.settings.2 then none
  match kind with
  | .plain => return (.unimplemented, files)
  | .null => return (.nowhere, files)
  | .stream =>
    match args.lookup "stream" with
    | none | some .null => return (.stream .stderr, files)
    | some (.sink sink) => return (.stream sink, files)
    | some _ => return (.nowhere, files)
  | .file | .watched => fileOutlet? (← logFileOf? args none) files
  | .rotating =>
    let size ← numberIn? 0 (args.lookup "maxBytes")
    let backups := (numberIn? 0 (args.lookup "backupCount")).getD 0
    fileOutlet? (← logFileOf? args (some ⟨size.toNat, backups.toNat⟩)) files
  | .timed =>
    let .text rhythm := (args.lookup "when").getD (.text "h") | none
    if !isRhythm rhythm then none
    let _ ← numberIn? 1 (args.lookup "interval")
    fileOutlet? (← logFileOf? (args.filter fun a => a.1 != "mode") none) files
  | .buffering =>
    let capacity ← args.lookup "capacity"
    return (.buffer ⟨capacity.threshold, none, .nothing, []⟩, files)
  | .memory =>
    let capacity ← args.lookup "capacity"
    let severe := ((args.lookup "flushLevel").map ConfigItem.threshold).getD (.atLeast 40)
    return (.buffer ⟨capacity.threshold, some severe, targetOf (args.lookup "target"), []⟩, files)
  | .remote .. => if canSend args then some (.nowhere, files) else none

/-- Sets a property of a handler. Most properties have no effect. -/
def Handler.setProperty (h : Handler) (property : String × ConfigItem) : Handler :=
  match property with
  | ("terminator", .text s) => { h with terminator := some s }
  | ("terminator", _) => { h with terminator := none }
  | ("level", item) => { h with level := item.threshold }
  | ("stream", _) =>
    match h.outlet with
    | .stream _ | .file _ => { h with outlet := .nowhere }
    | _ => h
  | _ => h

/-! ## Sections -/

inductive HandlerResult where
  | made (h : Handler) (files : Storage.Files)
  /-- The handler to pass records on to is not there yet. -/
  | waiting
  /-- No handler is made. Files may have been opened. -/
  | failed (files : Storage.Files)
  deriving Inhabited

/-- The layout that a section chooses, if it chooses one. -/
def chosenLayout? (s : Section) : Option Layout := do
  match ← s.get? "formatter" with
  | none => return .bare
  | some name =>
    if !name.isTruthy then return .bare
    match s.config.inSection "formatters" name with
    | .ok ⟨.layout layout, _⟩ => some layout
    | _ => none

/-- The filters that a setting lists. -/
def chosenFilters? (config : ConfigItem) : Option ConfigItem → Option (List Filter)
  | none => some []
  | some item =>
    if !item.isTruthy then some []
    else do
      (← item.listed?).mapM fun name =>
        match config.inSection "filters" name with
        | .ok ⟨.filter f, _⟩ => some f
        | _ => none

/-- What a handler is made from: its kind, and what makes it in the first place. -/
structure HandlerPlan where
  kind : HandlerKind
  /-- Whether the kind is given by name, so that the section may name other handlers. -/
  byName : Bool
  rest : Section
  deriving Inhabited

/-- Reads what kind of handler a section describes. -/
def handlerPlan? (s : Section) : Option HandlerPlan := do
  let rest := s.without ["formatter", "level", "filters"]
  if s.has "()" then
    let kind ← HandlerKind.ofName? (← makerOf? (← (← s.get? "()")))
    return ⟨kind, false, rest.without ["()"]⟩
  else
    let .text name ← (← s.get? "class") | none
    return ⟨← HandlerKind.ofName? (← makerOf? (.text name)), true, rest.without ["class"]⟩

/-- The arguments for a handler; the one that records are passed on to is named, and may not be there yet. -/
def HandlerPlan.arguments? (plan : HandlerPlan) : Option (Option Arguments) := do
  if plan.byName && plan.kind == .memory && plan.rest.has "target" then
    let name ← (← plan.rest.get? "target")
    match plan.rest.config.inSection "handlers" name with
    | .ok ⟨.handler id, _⟩ =>
      let args ← (plan.rest.without ["target"]).arguments?
      return some (args ++ [("target", .handler id)])
    | .ok _ => return none
    | .error _ => none
  else return some (← plan.rest.arguments?)

def makeHandler (s : Section) (files : Storage.Files) : HandlerResult :=
  let prepared : Option (Layout × Option ConfigItem × Option ConfigItem × HandlerPlan × Option Arguments) := do
    let layout ← chosenLayout? s
    let level ← s.present? "level"
    let filters ← s.get? "filters"
    let plan ← handlerPlan? s
    return (layout, level, filters, plan, ← plan.arguments?)
  match prepared with
  | none => .failed files
  | some (_, _, _, _, none) => .waiting
  | some (layout, level, filters, plan, some args) =>
    match outletOf? plan.kind args files with
    | none => .failed files
    | some (outlet, files) =>
      let handler : Option Handler := do
        let level ← match level with
          | none => some (Threshold.atLeast 0)
          | some item => item.level?.map fun l => .atLeast l.rank
        let filters ← chosenFilters? s.config filters
        let properties ← s.properties?
        return properties.foldl Handler.setProperty ⟨level, layout, filters, some "\n", outlet⟩
      match handler with
      | some h => .made h files
      | none => .failed files

end ApiDoc.Logging
