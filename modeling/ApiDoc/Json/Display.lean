import ApiDoc.Json.Basic
import ApiDoc.Number.Shortest
import ApiDoc.Text.Quoted

/-!
# Displaying JSON values

A dump may hold any value where a name belongs. Such a value is displayed as a text: a string as it is, everything else in a notation that shows its structure, with strings inside it between quotes.
-/

namespace ApiDoc.Json

mutual

/-- A value in the notation that shows its structure. -/
def notate : Json → List Char
  | .null => "None".toList
  | .bool b => if b then "True".toList else "False".toList
  | .int n => (toString n).toList
  | .float x => x.text.toList
  | .str s => Text.quoted s.toList
  | .arr [] => "[]".toList
  | .arr (item :: rest) => '[' :: notate item ++ notateItems rest ++ [']']
  | .obj [] => ['\x7b', '\x7d']
  | .obj ((name, item) :: rest) =>
    '\x7b' :: Text.quoted name.toList ++ [':', ' '] ++ notate item ++ notateMembers rest ++ ['\x7d']

/-- The items of an array after the first. -/
def notateItems : List Json → List Char
  | [] => []
  | item :: rest => ',' :: ' ' :: notate item ++ notateItems rest

def notateMembers : List (String × Json) → List Char
  | [] => []
  | (name, item) :: rest =>
    ',' :: ' ' :: Text.quoted name.toList ++ [':', ' '] ++ notate item ++ notateMembers rest

end

def display : Json → String
  | .str s => s
  | j => String.ofList (notate j)

/-- What a value is called in messages. -/
def kindName : Json → String
  | .null => "NoneType"
  | .bool _ => "bool"
  | .int _ => "int"
  | .float _ => "float"
  | .str _ => "str"
  | .arr _ => "list"
  | .obj _ => "dict"

end ApiDoc.Json
