import ApiDoc.Number.Literal
import ApiDoc.Number.Shortest
import ApiDoc.Text.Quoted
import ApiDoc.Yaml.Timestamp

/-!
# YAML values

Values that a YAML document can hold: scalars, lists, mappings and sets. A mapping keeps its entries in order, and its keys are scalars of any kind, not only strings.

* `Value.put` writes an entry, in place when the key is there and at the end otherwise.
* `Value.notate` shows a value with its structure, as messages do.
-/

namespace ApiDoc.Yaml

inductive Scalar where
  | null
  | bool (b : Bool)
  | int (n : Int)
  | float (x : Number.Binary64)
  | str (s : String)
  | binary (bytes : List UInt8)
  | timestamp (t : Timestamp)
  deriving DecidableEq, Repr, Inhabited

inductive Value where
  | scalar (s : Scalar)
  | list (items : List Value)
  | map (entries : List (Scalar × Value))
  | set (items : List Scalar)
  deriving Inhabited

inductive Error where
  /-- The text is no document, or it holds what has no value. -/
  | malformed
  /-- What is said to be a number is none. -/
  | number (e : Number.LiteralError)
  /-- Nothing is said to be a number. -/
  | noNumber
  /-- An escape stands for no character. -/
  | character (code : Nat)
  /-- What is said to be a truth value is none. -/
  | truth (word : String)
  /-- There is no such date or time. -/
  | calendar (fault : CalendarFault)
  /-- What is said to be a date is none. -/
  | noDate
  deriving DecidableEq, Repr, Inhabited

def Error.message : Error → String
  | .malformed => "malformed YAML"
  | .number e => e.message
  | .noNumber => "string index out of range"
  | .character code =>
    if code < 0x80000000 then "chr() arg not in range(0x110000)" else "Python int too large to convert to C int"
  | .truth word => Text.quotedString word
  | .calendar fault => fault.message
  | .noDate => "'NoneType' object has no attribute 'groupdict'"

namespace Scalar

/-- Whether the scalar counts as true: null, false, zero and the empty string do not. -/
def isTruthy : Scalar → Bool
  | .null => false
  | .bool b => b
  | .int n => n != 0
  | .float x => !x.isZero
  | .str s => !s.isEmpty
  | .binary bytes => !bytes.isEmpty
  | .timestamp _ => true

/-- The whole number that a scalar equals, if it is a number. Truth values count as zero and one. -/
def whole? : Scalar → Option Int
  | .bool b => some (if b then 1 else 0)
  | .int n => some n
  | .float x => x.toInt?
  | _ => none

/-- Whether two keys name the same entry: numbers do so by their value. -/
def sameKey (a b : Scalar) : Bool :=
  match a.whole?, b.whole? with
  | some m, some n => m == n
  | _, _ => a == b

def kindName : Scalar → String
  | .null => "NoneType"
  | .bool _ => "bool"
  | .int _ => "int"
  | .float _ => "float"
  | .str _ => "str"
  | .binary _ => "bytes"
  | .timestamp t => t.kindName

/-- A byte as text between quotes shows it. -/
def notateByte (quote : Char) (b : UInt8) : List Char :=
  let c := Char.ofNat b.toNat
  if b < 128 then Text.quoteChar quote c else '\\' :: 'x' :: Text.hexDigits 2 b.toNat

def notateBytes (bytes : List UInt8) : List Char :=
  let quote := Text.quoteFor (bytes.map fun b => Char.ofNat b.toNat)
  'b' :: quote :: bytes.flatMap (notateByte quote) ++ [quote]

def notate : Scalar → List Char
  | .null => "None".toList
  | .bool b => if b then "True".toList else "False".toList
  | .int n => (toString n).toList
  | .float x => x.text.toList
  | .str s => Text.quoted s.toList
  | .binary bytes => notateBytes bytes
  | .timestamp t => t.notate.toList

/-- The text that a scalar is displayed as: a string as it is, everything else in notation. -/
def display : Scalar → String
  | .str s => s
  | .timestamp t => t.text
  | s => String.ofList s.notate

end Scalar

namespace Value

/-- The value for nothing. -/
@[match_pattern] abbrev null : Value := .scalar .null

/-- A truth value. -/
@[match_pattern] abbrev bool (b : Bool) : Value := .scalar (.bool b)

/-- A whole number. -/
@[match_pattern] abbrev int (n : Int) : Value := .scalar (.int n)

/-- A number with a fraction or an exponent. -/
@[match_pattern] abbrev float (x : Number.Binary64) : Value := .scalar (.float x)

/-- A string. -/
@[match_pattern] abbrev str (s : String) : Value := .scalar (.str s)

/-- Whether the value counts as true: everything empty does not. -/
def isTruthy : Value → Bool
  | .scalar s => s.isTruthy
  | .list items => !items.isEmpty
  | .map entries => !entries.isEmpty
  | .set items => !items.isEmpty

def isText (v : Value) (text : String) : Bool :=
  match v with
  | .str s => s == text
  | _ => false

def find? (key : Scalar) : List (Scalar × Value) → Option Value
  | [] => none
  | (k, v) :: rest => if k.sameKey key then some v else find? key rest

/-- Writes an entry, in place if the key is there and at the end otherwise. -/
def put (key : Scalar) (value : Value) : List (Scalar × Value) → List (Scalar × Value)
  | [] => [(key, value)]
  | (k, v) :: rest => if k.sameKey key then (k, value) :: rest else (k, v) :: put key value rest

def get? (v : Value) (name : String) : Option Value :=
  match v with
  | .map entries => find? (.str name) entries
  | _ => none

def kindName : Value → String
  | .scalar s => s.kindName
  | .list _ => "list"
  | .map _ => "dict"
  | .set _ => "set"

/-- The items of a set, with commas between. -/
def notateMembers (items : List Scalar) : List Char := List.intercalate [',', ' '] (items.map Scalar.notate)

mutual

def notate : Value → List Char
  | .scalar s => s.notate
  | .list [] => "[]".toList
  | .list (item :: rest) => '[' :: notate item ++ notateItems rest ++ [']']
  | .map [] => ['\x7b', '\x7d']
  | .map ((key, item) :: rest) =>
    '\x7b' :: key.notate ++ [':', ' '] ++ notate item ++ notateEntries rest ++ ['\x7d']
  | .set [] => "set()".toList
  | .set items => '\x7b' :: notateMembers items ++ ['\x7d']

def notateItems : List Value → List Char
  | [] => []
  | item :: rest => ',' :: ' ' :: notate item ++ notateItems rest

def notateEntries : List (Scalar × Value) → List Char
  | [] => []
  | (key, item) :: rest => ',' :: ' ' :: key.notate ++ [':', ' '] ++ notate item ++ notateEntries rest

end

/-- The text that a value is displayed as: a string as it is, everything else in notation. -/
def display : Value → String
  | .scalar s => s.display
  | v => String.ofList (notate v)

end Value

end ApiDoc.Yaml
