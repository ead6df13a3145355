import ApiDoc.Logging.Handler
import ApiDoc.Yaml.Basic

/-!
# The parts of a configuration

A configuration is a mapping of values. While it is applied, what a value describes takes its place: a layout, a filter or a handler. A value can also stand for something that the program has, such as one of its outputs.

* `ConfigItem.ofValue` takes a value as part of a configuration, and `ConfigItem.value` gives it back.
* `ConfigItem.replaceAt` puts something in the place of a part.
-/

namespace ApiDoc.Logging

open Yaml (Scalar Value)

/-- A part of a configuration. -/
inductive ConfigItem where
  | scalar (s : Scalar)
  | list (items : List ConfigItem)
  | map (entries : List (Scalar × ConfigItem))
  | set (items : List Scalar)
  | sink (s : Sink)
  | layout (l : Layout)
  | filter (f : Filter)
  | handler (id : Nat)
  /-- What makes layouts, filters or handlers, by its full name. -/
  | maker (name : String)
  /-- Anything else that the program has. -/
  | other (kind : String)
  deriving Inhabited

namespace ConfigItem

/-- The part for nothing. -/
@[match_pattern] abbrev null : ConfigItem := .scalar .null

/-- A string. -/
@[match_pattern] abbrev text (s : String) : ConfigItem := .scalar (.str s)

/-- A whole number. -/
@[match_pattern] abbrev int (n : Int) : ConfigItem := .scalar (.int n)

/-- A truth value. -/
@[match_pattern] abbrev bool (b : Bool) : ConfigItem := .scalar (.bool b)

mutual

def ofValue : Value → ConfigItem
  | .scalar s => .scalar s
  | .list items => .list (ofValues items)
  | .map entries => .map (ofEntries entries)
  | .set items => .set items

def ofValues : List Value → List ConfigItem
  | [] => []
  | v :: rest => ofValue v :: ofValues rest

def ofEntries : List (Scalar × Value) → List (Scalar × ConfigItem)
  | [] => []
  | (k, v) :: rest => (k, ofValue v) :: ofEntries rest

end

mutual

/-- The value that a part is. What was made counts as true. -/
def value : ConfigItem → Value
  | .scalar s => .scalar s
  | .list items => .list (values items)
  | .map entries => .map (entryValues entries)
  | .set items => .set items
  | _ => .bool true

def values : List ConfigItem → List Value
  | [] => []
  | v :: rest => value v :: values rest

def entryValues : List (Scalar × ConfigItem) → List (Scalar × Value)
  | [] => []
  | (k, v) :: rest => (k, value v) :: entryValues rest

end

/-- Whether a part counts as true. -/
def isTruthy (item : ConfigItem) : Bool := item.value.isTruthy

def kindName : ConfigItem → String
  | .sink _ => "TextIOWrapper"
  | .layout _ => "Formatter"
  | .filter _ => "Filter"
  | .handler _ => "Handler"
  | .maker _ => "type"
  | .other kind => kind
  | item => item.value.kindName

def notate (item : ConfigItem) : String := String.ofList item.value.notate

def display : ConfigItem → String
  | .maker name => "<class '" ++ name ++ "'>"
  | item => item.value.display

def find? (key : Scalar) : List (Scalar × ConfigItem) → Option ConfigItem
  | [] => none
  | (k, v) :: rest => if k.sameKey key then some v else find? key rest

def get? (item : ConfigItem) (name : String) : Option ConfigItem :=
  match item with
  | .map entries => find? (.str name) entries
  | _ => none

/-- What a part lists when it is gone through: the keys of a mapping, the items of a list or a set, the characters of a string, the numbers of bytes. -/
def listed? : ConfigItem → Option (List ConfigItem)
  | .map entries => some (entries.map fun e => .scalar e.1)
  | .list items => some items
  | .set items => some (items.map .scalar)
  | .text s => some (s.toList.map fun c => .text (String.ofList [c]))
  | .scalar (.binary bytes) => some (bytes.map fun b => .int b.toNat)
  | _ => none

/-- The keys that lead from the whole configuration to a part. -/
abbrev Place := List Scalar

/-- Puts something in the place of a part, as far as mappings lead there. -/
def replaceAt (new : ConfigItem) : Place → ConfigItem → ConfigItem
  | [], _ => new
  | key :: rest, .map entries =>
    .map (entries.map fun (k, v) => if k.sameKey key then (k, replaceAt new rest v) else (k, v))
  | _ :: _, item => item

def level? : ConfigItem → Option Level
  | .int n => some (.number n)
  | .bool b => some (.flag b)
  | .text s => levelOf? s
  | _ => none

/-- A number that has to be reached. -/
def threshold : ConfigItem → Threshold
  | .scalar (.float x) =>
    match x with
    | .finite negative m e =>
      let (num, den) := Number.Binary64.quotient m e
      .atLeast (if negative then -((num / den : Nat) : Int) else ((num + den - 1) / den : Nat))
    | _ => .never
  | .int n => .atLeast n
  | .bool b => .atLeast (if b then 1 else 0)
  | item => .unusable item.kindName

def templateValue : ConfigItem → Template.Value
  | .null => .nothing
  | .bool b => .flag b
  | .int n => .int n
  | .scalar (.float x) => .float x
  | .text s => .text s
  | item => .shown item.value.display

end ConfigItem

end ApiDoc.Logging
