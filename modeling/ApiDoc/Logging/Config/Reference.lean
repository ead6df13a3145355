import ApiDoc.Logging.Config.Item
import ApiDoc.Number.Literal

/-!
# References in a configuration

A string in a configuration can stand for something else: for a part of the configuration itself, by the keys that lead there, or for something that the program has, by its full name.

* `ConfigItem.resolve` gives what a part of a configuration stands for.
-/

namespace ApiDoc.Logging

open Yaml (Scalar)

/-- Why a reference leads nowhere. -/
inductive ReferenceError where
  /-- There is nothing of this name. -/
  | unknown (name reason : String)
  /-- There is no name. -/
  | noName
  /-- It does not spell keys, at all or from some point on. -/
  | unreadable (path : String) (rest : Option String)
  | noKey (key : Scalar)
  | noItem (kind : String)
  /-- The key does not fit what it is a key of. -/
  | wrongKey (kind : String)
  | noParts (kind : String)
  /-- References lead to references all the time. -/
  | endless
  deriving DecidableEq, Repr, Inhabited

def ReferenceError.message : ReferenceError → String
  | .unknown name reason => "Cannot resolve " ++ Text.quotedString name ++ ": " ++ reason
  | .noName => "Empty module name"
  | .unreadable path none => "Unable to convert " ++ Text.quotedString path
  | .unreadable path (some rest) =>
    "Unable to convert " ++ Text.quotedString path ++ " at " ++ Text.quotedString rest
  | .noKey key => String.ofList key.notate
  | .noItem kind => kind ++ " index out of range"
  | .wrongKey kind =>
    if kind == "string" then "string indices must be integers, not 'str'"
    else "list indices must be integers or slices, not str"
  | .noParts kind => "'" ++ kind ++ "' object is not subscriptable"
  | .endless => "maximum recursion depth exceeded"

/-! ## What the program has -/

/-- The names under which things are found, and whether there are more names below them. -/
def knownGroups : List (String × Bool) :=
  [("sys", false), ("logging", true), ("logging.handlers", false), ("logging.config", false)]

/-- What makes layouts, filters and handlers. -/
def knownMakers : List String :=
  ["logging.Formatter", "logging.Filter", "logging.Handler", "logging.NullHandler", "logging.StreamHandler",
    "logging.FileHandler"]
    ++ ["RotatingFileHandler", "TimedRotatingFileHandler", "WatchedFileHandler", "MemoryHandler",
      "BufferingHandler", "SocketHandler", "DatagramHandler", "SysLogHandler", "NTEventLogHandler",
      "SMTPHandler", "HTTPHandler", "QueueHandler"].map ("logging.handlers." ++ ·)

/-- What the program has, by its full name. -/
def known : List (String × ConfigItem) :=
  [("sys.stdout", .sink .stdout), ("sys.stderr", .sink .stderr), ("sys.stdin", .other "TextIOWrapper"),
    ("sys.__stdout__", .other "TextIOWrapper"), ("sys.__stderr__", .other "TextIOWrapper"),
    ("logging.root", .other "RootLogger"), ("logging.lastResort", .other "_StderrHandler")]
    ++ levelNames.map (fun e => ("logging." ++ e.1, .int e.2))
    ++ knownMakers.map fun name => (name, .maker name)

def splitDots : List Char → List (List Char)
  | [] => [[]]
  | c :: cs =>
    if c == '.' then [] :: splitDots cs
    else match splitDots cs with
      | [] => [[c]]
      | name :: rest => (c :: name) :: rest

/-- Goes on from a name that is there to the names below it. -/
def findBelow (whole : String) : (used : String) → (found : ConfigItem) → List String → Except ReferenceError ConfigItem
  | _, found, [] => .ok found
  | used, _, name :: rest =>
    let next := used ++ "." ++ name
    match known.lookup next, knownGroups.lookup next with
    | some item, _ => findBelow whole next item rest
    | none, some _ => findBelow whole next (.other "module") rest
    | none, none =>
      let reason := match knownGroups.lookup used with
        | some true => "No module named " ++ Text.quotedString next
        | some false =>
          "No module named " ++ Text.quotedString next ++ "; " ++ Text.quotedString used ++ " is not a package"
        | none => "No module named " ++ Text.quotedString used
      .error (.unknown whole reason)

/-- What the program has under a full name. -/
def findKnown (name : String) : Except ReferenceError ConfigItem :=
  match (splitDots name.toList).map String.ofList with
  | [] | "" :: _ => .error .noName
  | first :: rest =>
    if (knownGroups.lookup first).isSome then findBelow name first (.other "module") rest
    else .error (.unknown name ("No module named " ++ Text.quotedString first))

/-! ## Parts of the configuration -/

/-- Something in a configuration, with the place where it stands. -/
structure Found where
  item : ConfigItem
  place : ConfigItem.Place
  deriving Inhabited

inductive Reference where
  | external (name : String)
  | inner (path : List Char)
  deriving DecidableEq, Repr, Inhabited

def Reference.ofString? (s : String) : Option Reference :=
  let scheme := s.toList.takeWhile fun c => 'a' ≤ c && c ≤ 'z'
  match s.toList.drop scheme.length with
  | ':' :: '/' :: '/' :: rest =>
    let rest := if rest.getLast? == some '\n' then rest.dropLast else rest
    if rest.contains '\n' then none
    else match String.ofList scheme with
      | "ext" => some (.external (String.ofList rest))
      | "cfg" => some (.inner rest)
      | _ => none
  | _ => none

/-- A step of a path: a name after a dot, or anything in brackets. -/
inductive PathStep where
  | name (word : List Char)
  | index (word : List Char)
  deriving DecidableEq, Repr, Inhabited

/-- Reads a word with the blanks around it. -/
def takeWord? (cs : List Char) : Option (List Char × List Char) :=
  let cs := Text.dropBlanks cs
  let word := cs.takeWhile Text.isWord
  if word.isEmpty then none else some (word, Text.dropBlanks (cs.drop word.length))

/-- Reads a step of a path. -/
def takeStep? : List Char → Option (PathStep × List Char)
  | '.' :: cs => (takeWord? cs).map fun (word, rest) => (.name word, rest)
  | '[' :: cs =>
    match takeWord? cs with
    | some (word, ']' :: rest) => some (.index word, Text.dropBlanks rest)
    | _ => none
  | _ => none

/-- What stands under a key. Only parts of mappings and lists can be references themselves. -/
def Found.child (resolve : Found → Except ReferenceError Found) (f : Found) (key : Scalar) :
    Except ReferenceError Found :=
  match f.item, key with
  | .map entries, _ =>
    match ConfigItem.find? key entries with
    | some item => resolve ⟨item, f.place ++ [key]⟩
    | none => .error (.noKey key)
  | .list items, .int n =>
    match items[n.toNat]? with
    | some item => resolve ⟨item, f.place ++ [key]⟩
    | none => .error (.noItem "list")
  | .list _, _ => .error (.wrongKey "list")
  | .text s, .int n =>
    match s.toList[n.toNat]? with
    | some c => .ok ⟨.text (String.ofList [c]), []⟩
    | none => .error (.noItem "string")
  | .text _, _ => .error (.wrongKey "string")
  | item, _ => .error (.noParts item.kindName)

/-- What a step leads to. Digits in brackets are a number first, and a name where a number does not fit. -/
def Found.step (resolve : Found → Except ReferenceError Found) (f : Found) : PathStep → Except ReferenceError Found
  | .name word => f.child resolve (.str (String.ofList word))
  | .index word =>
    let name := Scalar.str (String.ofList word)
    if !word.all Text.isDigit then f.child resolve name
    else
      let n := Number.inBase 10 (word.filterMap Text.digitValue?)
      match f.child resolve (.int n) with
      | .error (.noParts _) => f.child resolve name
      | result => result

/-- What the steps of a path lead to. Each step takes a character at least. -/
def Found.steps (resolve : Found → Except ReferenceError Found) (path : List Char) :
    Nat → Found → List Char → Except ReferenceError Found
  | 0, _, _ => .error .endless
  | _ + 1, f, [] => .ok f
  | fuel + 1, f, rest =>
    match takeStep? rest with
    | none => .error (.unreadable (String.ofList path) (some (String.ofList rest)))
    | some (step, rest) => do (← f.step resolve step).steps resolve path fuel rest

namespace ConfigItem

/-- What something in a configuration stands for, if references lead to references at most a number of times. -/
def resolveWithin (config : ConfigItem) : Nat → Found → Except ReferenceError Found
  | 0, _ => .error .endless
  | fuel + 1, f =>
    match f.item with
    | .text s =>
      match Reference.ofString? s with
      | none => .ok f
      | some (.external name) => (findKnown name).map fun item => ⟨item, []⟩
      | some (.inner path) =>
        match takeWord? path with
        | none => .error (.unreadable (String.ofList path) none)
        | some (word, rest) => do
          let first ← Found.child (config.resolveWithin fuel) ⟨config, []⟩ (.str (String.ofList word))
          first.steps (config.resolveWithin fuel) path (rest.length + 1) rest
    | _ => .ok f

/-- What something in a configuration stands for. -/
def resolve (config : ConfigItem) (f : Found) : Except ReferenceError Found := config.resolveWithin 100 f

/-- What stands under a key of something. -/
def child (config : ConfigItem) (f : Found) (key : Scalar) : Except ReferenceError Found :=
  f.child config.resolve key

def setting (config : ConfigItem) (f : Found) (name : String) : Except ReferenceError (Option ConfigItem) :=
  match f.item.get? name with
  | none => .ok none
  | some item => (config.resolve ⟨item, f.place ++ [.str name]⟩).map fun f => some f.item

/-- What stands under a name of a section of the configuration. -/
def inSection (config : ConfigItem) (part : String) (key : ConfigItem) : Except ReferenceError Found := do
  let found ← config.child ⟨config, []⟩ (.str part)
  match key with
  | .scalar k => config.child found k
  | _ => .error (.noParts key.kindName)

end ConfigItem

end ApiDoc.Logging
