import ApiDoc.Logging.Handler
import ApiDoc.Yaml.Basic

/-!
# Loggers

Loggers have names with dots between their parts. The parent of a logger is the nearest logger that is there whose name is cut off before a dot, and the root above all. A logger without a level of its own has that of its parent, and its records go to the handlers of its parent too, unless it keeps them to itself.

Handlers have numbers, so that several loggers can share one.

* `Registry.effectiveLevel` is the level that counts for a logger.
* `Registry.reached` are the handlers that its records go to.
-/

namespace ApiDoc.Logging

/-- A logger. Whether it passes records on and whether it is disabled can be said by any value, which counts as true or false. -/
structure Logger where
  name : String
  /-- Its own level, or zero. -/
  level : Level
  /-- Whether its records go to the handlers of its parent too. -/
  propagates : Yaml.Value
  disabled : Yaml.Value
  /-- The numbers of its handlers. -/
  handlers : List Nat
  filters : List Filter
  deriving Inhabited

def Logger.new (name : String) : Logger := ⟨name, .unset, .bool true, .bool false, [], []⟩

structure Registry where
  root : Logger
  loggers : List Logger
  /-- The handlers by their numbers. -/
  handlers : List Handler
  /-- The handlers that the next configuration closes. -/
  unclosed : List Nat
  /-- The handlers that can be found by name. -/
  named : List (Yaml.Scalar × Nat)
  deriving Inhabited

namespace Registry

def empty : Registry := ⟨{ Logger.new "root" with level := .warning }, [], [], [], []⟩

/-- Whether a name stands for the root. -/
def isRootName (name : String) : Bool := name == "" || name == "root"

def below? (r : Registry) (name : String) : Option Logger := r.loggers.find? fun l => l.name == name

/-- Makes a logger unless it is there. -/
def ensure (r : Registry) (name : String) : Registry :=
  if isRootName name || (r.below? name).isSome then r else { r with loggers := r.loggers ++ [.new name] }

/-- The logger of a name, as it would be made if it is not there. -/
def get (r : Registry) (name : String) : Logger :=
  if isRootName name then r.root else (r.below? name).getD (.new name)

def modify (r : Registry) (name : String) (f : Logger → Logger) : Registry :=
  if isRootName name then { r with root := f r.root }
  else { r with loggers := r.loggers.map fun l => if l.name == name then f l else l }

/-- Adds a handler, and gives its number. -/
def addHandler (r : Registry) (h : Handler) : Nat × Registry :=
  let id := r.handlers.length
  (id, { r with handlers := r.handlers ++ [h], unclosed := r.unclosed ++ [id] })

/-- Changes a handler. -/
def modifyHandler (r : Registry) (id : Nat) (f : Handler → Handler) : Registry :=
  { r with handlers := r.handlers.modify id f }

/-- The names that lead to a reversed name: it is cut off before a dot, from the right. Of two dots side by side only the right one counts. -/
def prefixesOf (skip : Bool) : List Char → List String
  | [] => []
  | c :: cs =>
    if !skip && c == '.' && !cs.isEmpty then String.ofList cs.reverse :: prefixesOf true cs else prefixesOf false cs

/-- The names that a logger of some name belongs under, the nearest first. -/
def namesAbove (name : String) : List String := prefixesOf false name.toList.reverse

/-- The names that are there: those of the loggers and those that they belong under. -/
def allNames (r : Registry) : List String :=
  r.loggers.map (·.name) ++ r.loggers.flatMap fun l => namesAbove l.name

/-- The parents of a reversed name, the nearest first. From a parent that is there the search goes on with its name. -/
def parentsFrom (r : Registry) (skip : Bool) : List Char → List Logger
  | [] => []
  | c :: cs =>
    if !skip && c == '.' && !cs.isEmpty then
      match r.below? (String.ofList cs.reverse) with
      | some l => l :: parentsFrom r false cs
      | none => parentsFrom r true cs
    else parentsFrom r false cs

/-- A logger and its parents, the root last. -/
def lineage (r : Registry) (name : String) : List Logger :=
  if isRootName name then [r.root] else r.get name :: r.parentsFrom false name.toList.reverse ++ [r.root]

/-- The first level of its own in a line of loggers. -/
def firstLevel : List Logger → Level
  | [] => .unset
  | l :: rest => if l.level.rank != 0 then l.level else firstLevel rest

/-- The level that counts for a logger. -/
def effectiveLevel (r : Registry) (name : String) : Level := firstLevel (r.lineage name)

/-- The handlers that the records of a line of loggers go to. -/
def reached : List Logger → List Nat
  | [] => []
  | l :: rest => l.handlers ++ if l.propagates.isTruthy then reached rest else []

/-- Whether a logger takes records of a level. -/
def takes (r : Registry) (name : String) (level : Level) : Bool :=
  !(r.get name).disabled.isTruthy && level.rank > 0 && level.rank ≥ (r.effectiveLevel name).rank

end Registry

end ApiDoc.Logging
