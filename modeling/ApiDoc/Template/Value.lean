import ApiDoc.Number.Shortest
import ApiDoc.Text.Quoted

/-!
# Values in templates

The values that templates put into text. Each value can be shown as it is, in the notation that tells strings from other values, and in that notation with nothing but ASCII.
-/

namespace ApiDoc.Template

/-- A value that a template can show. -/
inductive Value where
  | text (s : String)
  | int (n : Int)
  | flag (b : Bool)
  | float (x : Number.Binary64)
  /-- The value for nothing. -/
  | nothing
  /-- The path of a file. -/
  | path (s : String)
  /-- A row of values. -/
  | row (items : List Value)
  /-- A value of which only its notation is known. -/
  | shown (s : String)
  deriving Inhabited

abbrev Values := List (String × Value)

namespace Value

mutual

/-- A value in notation. -/
def notate : Value → List Char
  | .text s => Text.quoted s.toList
  | .int n => (toString n).toList
  | .flag b => if b then "True".toList else "False".toList
  | .float x => x.text.toList
  | .nothing => "None".toList
  | .path s => "PosixPath(".toList ++ Text.quoted s.toList ++ [')']
  | .row [] => "()".toList
  | .row [item] => '(' :: notate item ++ [',', ')']
  | .row (item :: rest) => '(' :: notate item ++ notateItems rest ++ [')']
  | .shown s => s.toList

def notateItems : List Value → List Char
  | [] => []
  | item :: rest => ',' :: ' ' :: notate item ++ notateItems rest

end

def display : Value → List Char
  | .text s => s.toList
  | .path s => s.toList
  | v => v.notate

def asciiChar (c : Char) : List Char :=
  if c.toNat < 0x80 then [c]
  else if c.toNat < 0x100 then '\\' :: 'x' :: Text.hexDigits 2 c.toNat
  else if c.toNat < 0x10000 then '\\' :: 'u' :: Text.hexDigits 4 c.toNat
  else '\\' :: 'U' :: Text.hexDigits 8 c.toNat

def ascii (v : Value) : List Char := v.notate.flatMap asciiChar

/-- The whole number that a value is. Truth values count as zero and one. -/
def int? : Value → Option Int
  | .int n => some n
  | .flag b => some (if b then 1 else 0)
  | _ => none

/-- The number with a fraction that a value is or can be taken for. -/
def float? : Value → Option Number.Binary64
  | .float x => some x
  | v => v.int?.map .ofInt

def truncated? : Value → Option Int
  | .float (.finite negative m e) =>
    let (num, den) := Number.Binary64.quotient m e
    some (Number.Binary64.signed negative (num / den))
  | v => v.int?

end Value

end ApiDoc.Template
