import ApiDoc.Json.Basic
import ApiDoc.Number.Shortest
import ApiDoc.Text.Quoted

/-!
# Writing JSON

Writes a JSON value over several lines, each level indented by two spaces, with empty arrays and objects on one line. Only what has to be escaped is: quotes, backslashes and control characters.
-/

namespace ApiDoc.Json

/-- How a string shows one character. -/
def writeChar (c : Char) : List Char :=
  if c == '"' then ['\\', '"']
  else if c == '\\' then ['\\', '\\']
  else if c == '\n' then ['\\', 'n']
  else if c == '\r' then ['\\', 'r']
  else if c == '\t' then ['\\', 't']
  else if c == '\x08' then ['\\', 'b']
  else if c == '\x0c' then ['\\', 'f']
  else if c.toNat < 32 then '\\' :: 'u' :: Text.hexDigits 4 c.toNat
  else [c]

def writeString (s : String) : List Char := '"' :: s.toList.flatMap writeChar ++ ['"']

def writeInt (n : Int) : List Char :=
  if n < 0 then '-' :: Nat.toDigits 10 n.natAbs else Nat.toDigits 10 n.natAbs

/-- The text of a number with a fraction or an exponent. -/
def writeFloat : Number.Binary64 → List Char
  | .nan => "NaN".toList
  | .infinite negative => if negative then "-Infinity".toList else "Infinity".toList
  | x => x.text.toList

/-- A line break and the indentation of a level. -/
def newLine (level : Nat) : List Char := '\n' :: List.replicate (2 * level) ' '

mutual

/-- Writes a value that stands at a level. -/
def write (level : Nat) : Json → List Char
  | .null => "null".toList
  | .bool b => if b then "true".toList else "false".toList
  | .int n => writeInt n
  | .float x => writeFloat x
  | .str s => writeString s
  | .arr [] => "[]".toList
  | .arr (item :: rest) =>
    '[' :: newLine (level + 1) ++ write (level + 1) item ++ writeItems (level + 1) rest ++ newLine level ++ [']']
  | .obj [] => ['\x7b', '\x7d']
  | .obj ((name, item) :: rest) =>
    '\x7b' :: newLine (level + 1) ++ writeString name ++ [':', ' '] ++ write (level + 1) item
      ++ writeMembers (level + 1) rest ++ newLine level ++ ['\x7d']

/-- Writes the items of an array after the first. -/
def writeItems (level : Nat) : List Json → List Char
  | [] => []
  | item :: rest => ',' :: newLine level ++ write level item ++ writeItems level rest

def writeMembers (level : Nat) : List (String × Json) → List Char
  | [] => []
  | (name, item) :: rest =>
    ',' :: newLine level ++ writeString name ++ [':', ' '] ++ write level item ++ writeMembers level rest

end

def render (j : Json) : List Char := write 0 j

end ApiDoc.Json
