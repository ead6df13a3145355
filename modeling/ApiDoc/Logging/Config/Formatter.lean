import ApiDoc.Logging.Config.Reference

/-!
# Layouts and filters from a configuration

How the sections for layouts and filters are read. A section says what it describes by its settings, or names what makes it. Any fault in a section means that nothing can be made from it.

* `layout?` and `filter?` read a section.
-/

namespace ApiDoc.Logging

open Yaml (Scalar)

/-! ## Settings of a section -/

/-- A section of a configuration that is a mapping. -/
structure Section where
  config : ConfigItem
  place : ConfigItem.Place
  entries : List (Scalar × ConfigItem)
  deriving Inhabited

/-- The section at a place, if it is a mapping. -/
def Section.of? (config : ConfigItem) (f : Found) : Option Section :=
  match f.item with
  | .map entries => some ⟨config, f.place, entries⟩
  | _ => none

namespace Section

def has (s : Section) (name : String) : Bool := (ConfigItem.find? (.str name) s.entries).isSome

/-- A setting, if there is one; it may be a reference that leads nowhere. -/
def get? (s : Section) (name : String) : Option (Option ConfigItem) :=
  (s.config.setting ⟨.map s.entries, s.place⟩ name).toOption

/-- A setting that is neither missing nor nothing. -/
def present? (s : Section) (name : String) : Option (Option ConfigItem) :=
  (s.get? name).map fun
    | some .null => none
    | item => item

def without (s : Section) (names : List String) : Section :=
  { s with entries := s.entries.filter fun e => !names.any fun name => e.1.sameKey (.str name) }

end Section

/-- A letter or an underscore, as names start with one. -/
def startsIdentifier (c : Char) : Bool := c.isAlpha || c == '_'

/-- Whether a text can be the name of an argument. -/
def isIdentifier (s : String) : Bool :=
  s.toList.head?.any startsIdentifier && s.toList.all fun c => startsIdentifier c || c.isDigit

/-- The arguments that settings give to what makes something. -/
abbrev Arguments := List (String × ConfigItem)

/-- The settings of a section as arguments. The properties that are set afterwards are none of them. -/
def Section.arguments? (s : Section) : Option Arguments :=
  (s.without ["."]).entries.mapM fun (key, _) => do
    let .str name := key | none
    if !isIdentifier name then none
    return (name, ← (← s.get? name))

/-- Whether arguments are those that are needed, and others only if they are allowed. -/
def Arguments.fit (args : Arguments) (needed allowed : List String) : Bool :=
  args.all (fun a => needed.contains a.1 || allowed.contains a.1)
    && needed.all fun name => (args.lookup name).isSome

/-- The properties that a section sets afterwards. -/
def Section.properties? (s : Section) : Option Arguments := do
  match ← s.get? "." with
  | none => return []
  | some item =>
    if !item.isTruthy then return []
    let .map entries := item | none
    entries.mapM fun (key, value) =>
      match key with
      | .str name => some (name, value)
      | _ => none

/-- What makes something, given as such or by name. -/
def makerOf? : ConfigItem → Option String
  | .maker name => some name
  | .text name =>
    match findKnown name with
    | .ok (.maker name) => some name
    | _ => none
  | _ => none

/-! ## Layouts -/

/-- The style of a layout. -/
def styleOf? : Option ConfigItem → Option Style
  | none => some .percent
  | some (.text mark) => Style.ofMark? mark
  | some _ => none

def timeFormatOf : Option ConfigItem → TimeFormat
  | none => .standard
  | some (.text s) => if s.isEmpty then .standard else .given s
  | some item => if item.isTruthy then .unusable else .standard

/-- The values that records need not have; there may be something else where they belong. -/
def defaultsOf : Option ConfigItem → Option Template.Values
  | some (.map entries) =>
    some (entries.filterMap fun
      | (.str name, item) => some (name, item.templateValue)
      | _ => none)
  | some item => if item.isTruthy then none else some []
  | none => some []

/-- The layout that arguments describe. A template is checked unless that is switched off. -/
def layoutOf? (args : Arguments) : Option Layout := do
  let style ← styleOf? (args.lookup "style")
  let isChecked := ((args.lookup "validate").map ConfigItem.isTruthy).getD true
  let timeFormat := timeFormatOf (args.lookup "datefmt")
  let defaults := defaultsOf (args.lookup "defaults")
  let given := (args.lookup "fmt").filter ConfigItem.isTruthy
  let template : Option String := match given with
    | none => some style.bare
    | some (.text s) => some s
    | some _ => none
  if isChecked && !(template.any fun s => style.accepts s.toList) then none
  return ⟨style, if defaults.isSome then template else none, timeFormat, defaults.getD []⟩

/-- The name of what makes layouts. -/
def layoutMaker : String := "logging.Formatter"

/-- An argument for a layout under the name that it has there. -/
def renameFormat (args : Arguments) : Arguments :=
  match args.lookup "format" with
  | none => args
  | some item => (args.filter fun a => a.1 != "format" && a.1 != "fmt") ++ [("fmt", item)]

/-- The layout that a section describes. -/
def layout? (s : Section) : Option Layout := do
  if s.has "()" then
    if (← makerOf? (← (← s.get? "()"))) != layoutMaker then none
    let args := renameFormat (← (s.without ["()"]).arguments?)
    if !args.fit [] ["fmt", "datefmt", "style", "validate", "defaults"] then none
    let layout ← layoutOf? args
    let _ ← s.properties?
    return layout
  else
    let template ← s.present? "format"
    let timeFormat ← s.present? "datefmt"
    let style ← s.get? "style"
    let maker ← s.get? "class"
    let check ← s.get? "validate"
    match maker with
    | some (.text name) => if !name.isEmpty && name != layoutMaker then none
    | some item => if item.isTruthy then none
    | none => pure ()
    let given (name : String) (item : Option ConfigItem) : Arguments := (item.map fun i => (name, i)).toList
    layoutOf? (given "fmt" template ++ given "datefmt" timeFormat ++ given "style" style ++ given "validate" check)

/-! ## Filters -/

/-- The filter of a name. What has no length is no name at all. -/
def filterNamed? : ConfigItem → Option Filter
  | .text name => some (.below name)
  | .scalar (.binary bytes) => some (if bytes.isEmpty then .below "" else .unusable "bytes")
  | .scalar _ => none
  | .list items => some (if items.isEmpty then .below "" else .unusable "ConvertingList")
  | .map entries => some (if entries.isEmpty then .below "" else .unusable "ConvertingDict")
  | .set items => some (if items.isEmpty then .below "" else .unusable "set")
  | _ => none

def filter? (s : Section) : Option Filter := do
  if s.has "()" then
    if (← makerOf? (← (← s.get? "()"))) != "logging.Filter" then none
    let args ← (s.without ["()"]).arguments?
    if !args.fit [] ["name"] then none
    let filter ← filterNamed? ((args.lookup "name").getD (.text ""))
    let _ ← s.properties?
    return filter
  else filterNamed? ((← s.get? "name").getD (.text ""))

end ApiDoc.Logging
