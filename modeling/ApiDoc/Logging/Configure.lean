import ApiDoc.Logging.Config.Handler
import ApiDoc.Logging.Config.Order

/-!
# Configuring loggers

A mapping describes layouts, filters, handlers and loggers. Applying it either replaces the handlers and settles every logger that is there, or only adjusts levels. A fault stops it, and what was done before stays done.

* `configure` applies a mapping.
-/

namespace ApiDoc.Logging

open Yaml (Scalar Value)

inductive ConfigError where
  | noVersion
  | unsupportedVersion (shown : String)
  | formatter (name : Value)
  | filter (name : Value)
  | handler (name : Value)
  | unknownHandler (name : Value)
  | logger (name : String)
  | root
  /-- A value stands where names were to be listed. -/
  | noNames (kind : String)
  /-- Names cannot be put in order. -/
  | unordered (left right : String)
  /-- A reference leads nowhere. -/
  | reference (e : ReferenceError)
  /-- Records that were kept cannot be passed on. -/
  | emit (e : EmitError)
  deriving Inhabited

def ConfigError.message : ConfigError → String
  | .noVersion => "dictionary doesn't specify a version"
  | .unsupportedVersion v => "Unsupported version: " ++ v
  | .formatter name => "Unable to configure formatter " ++ String.ofList name.notate
  | .filter name => "Unable to configure filter " ++ String.ofList name.notate
  | .handler name => "Unable to configure handler " ++ String.ofList name.notate
  | .unknownHandler name => "No handler found with name " ++ String.ofList name.notate
  | .logger name => "Unable to configure logger " ++ Text.quotedString name
  | .root => "Unable to configure root logger"
  | .noNames kind => "'" ++ kind ++ "' object is not iterable"
  | .unordered left right =>
    "'<' not supported between instances of '" ++ left ++ "' and '" ++ right ++ "'"
  | .reference e => e.message
  | .emit e => e.message

/-- A change of the loggers that can fail half way. -/
abbrev Configuring := Logs ConfigError

/-! ## Reading sections -/

/-- What stands under a name of the whole mapping. -/
def topSetting (config : ConfigItem) (name : String) : Except ConfigError (Option Found) :=
  match config.get? name with
  | none => .ok none
  | some item => ((config.resolve ⟨item, [.str name]⟩).mapError .reference).map some

/-- A section, which is empty if it is missing. -/
def sectionOf (config : ConfigItem) (name : String) : Except ConfigError Found := do
  return (← topSetting config name).getD ⟨.map [], [.str name]⟩

def sectionNames (found : Found) : Except ConfigError (List ConfigItem) :=
  match found.item.listed? with
  | some names => .ok names
  | none => .error (.noNames found.item.kindName)

/-- The section under a name, if it is a mapping. -/
def partOf? (config : ConfigItem) (found : Found) (name : ConfigItem) : Option Section := do
  let .scalar key := name | none
  Section.of? config (← (config.child found key).toOption)

/-- The mapping with something made in the place of the section of a name. -/
def withMade (config : ConfigItem) (found : Found) (name made : ConfigItem) : ConfigItem :=
  match name with
  | .scalar key => ConfigItem.replaceAt made (found.place ++ [key]) config
  | _ => config

/-! ## Layouts, filters and handlers -/

/-- Makes everything that a section describes, and puts it in the place of its description. -/
def makeAll (part : String) (make? : Section → Option ConfigItem) (fault : Value → ConfigError)
    (config : ConfigItem) : Except ConfigError ConfigItem := do
  let found ← sectionOf config part
  (← sectionNames found).foldlM (fun config name =>
    match (partOf? config found name).bind make? with
    | some made => .ok (withMade config found name made)
    | none => .error (fault name.value)) config

/-- Names a handler. Empty names are not kept. -/
def Registry.nameHandler (r : Registry) (name : Scalar) (id : Nat) : Registry :=
  if name.isTruthy then { r with named := r.named.filter (fun e => !e.1.sameKey name) ++ [(name, id)] } else r

/-- The settings of a section that are gone once a handler is made from it. -/
def usedSettings : List String := ["formatter", "level", "filters", "()", "class", "."]

/-- Makes the handler of a name. Nothing comes of it if it has to wait for another one. -/
def makeNamed (found : Found) (config name : ConfigItem) : Configuring (Option ConfigItem) := do
  let .scalar key := name | throw (.handler name.value)
  let some part := partOf? config found name | throw (.handler name.value)
  match makeHandler part (← get).files with
  | .waiting => return none
  | .failed files =>
    modify fun s => { s with files }
    throw (.handler name.value)
  | .made h files =>
    modify fun s => { s with files }
    let (id, r) := (← get).registry.addHandler h
    modify fun s => { s with registry := r.nameHandler key id }
    let rest := ConfigItem.map (part.without usedSettings).entries
    let config := ConfigItem.replaceAt rest part.place config
    return some (withMade config found name (.handler id))

/-- Makes handlers by their names, and gives the names of those that have to wait. -/
def makeNamedList (found : Found) : List ConfigItem → ConfigItem → Configuring (ConfigItem × List ConfigItem)
  | [], config => return (config, [])
  | name :: rest, config => do
    match ← makeNamed found config name with
    | some config => makeNamedList found rest config
    | none =>
      let (config, waiting) ← makeNamedList found rest config
      return (config, name :: waiting)

/-- Makes the handlers, in the order of their names. Those that wait for others come last. -/
def makeHandlers (config : ConfigItem) : Configuring ConfigItem := do
  let found ← Logs.lift (sectionOf config "handlers")
  let names ← Logs.lift (sectionNames found)
  let names ← Logs.lift ((sortNames names).mapError fun (left, right) => .unordered left right)
  let (config, waiting) ← makeNamedList found names config
  match ← makeNamedList found waiting config with
  | (config, []) => return config
  | (_, name :: _) => throw (.handler name.value)

/-! ## Loggers -/

/-- The numbers of handlers by name, as far as they are there, and whether all are there. -/
def handlersNamed (config : ConfigItem) : List ConfigItem → List Nat × Bool
  | [] => ([], true)
  | name :: rest =>
    match config.inSection "handlers" name with
    | .ok ⟨.handler id, _⟩ =>
      let (ids, ok) := handlersNamed config rest
      (id :: ids, ok)
    | _ => ([], false)

/-- Adds numbers that are not there yet. -/
def addNew (there : List Nat) (ids : List Nat) : List Nat :=
  ids.foldl (fun done id => if done.contains id then done else done ++ [id]) there

/-- The filters of a setting as far as they are there, and whether all are there. -/
def filtersNamed (config : ConfigItem) : List ConfigItem → List Filter × Bool
  | [] => ([], true)
  | name :: rest =>
    match config.inSection "filters" name with
    | .ok ⟨.filter f, _⟩ =>
      let (filters, ok) := filtersNamed config rest
      (f :: filters, ok)
    | _ => ([], false)

/-- Replaces the handlers of a logger by those that a section lists, and adds its filters. Tells whether all went well. -/
def replaceHandlers (s : Section) (l : Logger) : Logger × Bool :=
  let l := { l with handlers := [] }
  match s.get? "handlers" with
  | none => (l, false)
  | some listed =>
    let (ids, ok) := namesOf listed (handlersNamed s.config)
    let l := { l with handlers := addNew [] ids }
    if !ok then (l, false)
    else match s.get? "filters" with
      | none => (l, false)
      | some listed =>
        let (filters, ok) := namesOf listed (filtersNamed s.config)
        ({ l with filters := l.filters ++ filters }, ok)
where
  /-- Looks up the names that a setting lists. -/
  namesOf {α : Type} (listed : Option ConfigItem) (look : List ConfigItem → List α × Bool) : List α × Bool :=
    match listed.filter ConfigItem.isTruthy with
    | none => ([], true)
    | some item =>
      match item.listed? with
      | some names => look names
      | none => ([], false)

/-- Sets the level of a logger and, unless only levels are adjusted, replaces its handlers. Tells whether all went well. -/
def settle (levelsOnly : Bool) (s : Section) (l : Logger) : Logger × Bool :=
  match s.present? "level" with
  | none => (l, false)
  | some level =>
    match level.elim (some l.level) ConfigItem.level? with
    | none => (l, false)
    | some level =>
      let l := { l with level }
      if levelsOnly then (l, true) else replaceHandlers s l

/-- Configures the logger of a name. It is made if it is not there. -/
def configureLogger (levelsOnly : Bool) (name : String) (s : Option Section) : Configuring Unit := do
  Logs.modifyRegistry (·.ensure name)
  let some s := s | throw (.logger name)
  let (l, ok) := settle levelsOnly s ((← get).registry.get name)
  Logs.modifyRegistry (·.modify name fun _ => l)
  if !ok then throw (.logger name)
  Logs.modifyRegistry (·.modify name fun l => { l with disabled := .bool false })
  match s.present? "propagate" with
  | none => throw (.logger name)
  | some none => return
  | some (some item) => Logs.modifyRegistry (·.modify name fun l => { l with propagates := item.value })

/-- Configures the loggers of a mapping in order, and gives their names. -/
def configureLoggers (levelsOnly : Bool) (config : ConfigItem) : Configuring (List String) := do
  let found ← Logs.lift (sectionOf config "loggers")
  (← Logs.lift (sectionNames found)).mapM fun key => do
    let name := key.value.display
    configureLogger levelsOnly name (partOf? config found key)
    return name

/-- Configures the root, if a mapping has a section for it. -/
def configureRoot (levelsOnly : Bool) (config : ConfigItem) : Configuring Unit := do
  match ← Logs.lift (topSetting config "root") with
  | none => return
  | some found =>
    if !found.item.isTruthy then return
    let some s := Section.of? config found | throw .root
    let (l, ok) := settle levelsOnly s (← get).registry.root
    Logs.modifyRegistry fun r => { r with root := l }
    if !ok then throw .root

/-- Settles a logger that was there before and that the mapping does not name. One below a named logger loses all settings of its own, any other one is disabled or enabled. -/
def settleOther (named : List String) (disable : Value) (l : Logger) : Logger :=
  if named.contains l.name then l
  else if named.any (isBelow · l.name) then { l with level := .unset, handlers := [], propagates := .bool true }
  else { l with disabled := disable }

/-! ## Applying a mapping -/

/-- Adjusts the level of a handler that the last configuration made. -/
def adjustHandler (config : ConfigItem) (found : Found) (name : ConfigItem) : Configuring Unit := do
  let .scalar key := name | throw (.unknownHandler name.value)
  let some (_, id) := (← get).registry.named.find? fun e => e.1.sameKey key | throw (.unknownHandler name.value)
  let some s := partOf? config found name | throw (.handler name.value)
  match s.get? "level" with
  | none => throw (.handler name.value)
  | some none => return
  | some (some item) =>
    if !item.isTruthy then return
    let some level := item.level? | throw (.handler name.value)
    Logs.modifyRegistry (·.modifyHandler id fun h => { h with level := .atLeast level.rank })

/-- Adjusts levels only. -/
def adjust (config : ConfigItem) : Configuring Unit := do
  let found ← Logs.lift (sectionOf config "handlers")
  (← Logs.lift (sectionNames found)).forM (adjustHandler config found)
  let _ ← configureLoggers true config
  configureRoot true config

/-- Replaces the handlers, and settles every logger. -/
def replace (config : ConfigItem) : Configuring Unit := do
  let disable := (← Logs.lift (topSetting config "disable_existing_loggers")).map fun f => f.item.value
  Logs.mapError .emit closeHandlers
  let config ← Logs.lift (makeAll "formatters" (fun s => (layout? s).map .layout) .formatter config)
  let config ← Logs.lift (makeAll "filters" (fun s => (filter? s).map .filter) .filter config)
  let config ← makeHandlers config
  let before := (← get).registry
  let configured ← configureLoggers false config
  let isOld (l : Logger) : Bool := before.loggers.any fun o => o.name == l.name
  let named := configured.filter fun n => before.allNames.contains n
  Logs.modifyRegistry fun r =>
    { r with loggers := r.loggers.map fun l => if isOld l then settleOther named (disable.getD (.bool true)) l else l }
  configureRoot false config

def isOne : ConfigItem → Bool
  | .scalar s => s.whole? == some 1
  | _ => false

def configure (mapping : Value) : Configuring Unit := do
  let config := ConfigItem.ofValue mapping
  let some version ← Logs.lift (topSetting config "version") | throw .noVersion
  if !isOne version.item then throw (.unsupportedVersion version.item.display)
  let levelsOnly := (← Logs.lift (topSetting config "incremental")).any fun f => f.item.isTruthy
  if levelsOnly then adjust config else replace config

end ApiDoc.Logging
