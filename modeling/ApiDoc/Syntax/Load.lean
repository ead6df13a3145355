import ApiDoc.Json.Read
import ApiDoc.Storage.Files
import ApiDoc.Syntax.Dump
import ApiDoc.Text.Utf8

/-!
# Loading dumps

Reads a dump from a file: its bytes, their text, the JSON value in it, and the tree that the value describes. Each step can fail in its own way.
-/

namespace ApiDoc.Syntax

inductive LoadError where
  /-- The file cannot be read. -/
  | unavailable (path : String) (e : Storage.FileError)
  /-- The file is no text. -/
  | undecodable (e : Text.Utf8Error)
  /-- The text is no JSON. -/
  | malformed (path : String) (cause : Json.Cause) (spot : Json.Spot)
  /-- A whole number in the text has too many digits. -/
  | digits (e : Number.TooManyDigits)
  /-- The value is no list of statements. -/
  | notAList (e : NotAList)
  deriving DecidableEq, Repr, Inhabited

def LoadError.message : LoadError → String
  | .unavailable path e => "Cannot read " ++ path ++ ": " ++ e.message
  | .undecodable e => e.message
  | .malformed path cause spot => path ++ " is not valid JSON: " ++ (Json.ReadError.malformed cause spot).message
  | .digits e => e.message
  | .notAList e => e.message

/-- The JSON value in a text that was read from a path. -/
def parseDump (path : String) (text : List Char) : Except LoadError Json :=
  (Json.parse text).mapError fun
    | .malformed cause spot => .malformed path cause spot
    | .digits e => .digits e

/-- The tree that the bytes of a file describe. -/
def SourceTree.ofBytes (path : String) (bytes : List UInt8) : Except LoadError SourceTree := do
  let text ← (Text.decode bytes).mapError .undecodable
  let j ← parseDump path text
  (SourceTree.ofJson (some path) j).mapError .notAList

def load (files : Storage.Files) (path : String) : Except LoadError SourceTree := do
  let bytes ← (files.read path).mapError (.unavailable path)
  SourceTree.ofBytes path bytes

/-- What is worth telling about loading a tree. -/
inductive LoadNote where
  /-- A statement of an unknown kind was kept. -/
  | kept (kind : String)
  /-- So many statements were read from a file. -/
  | loaded (count : Nat) (path : String)
  deriving DecidableEq, Repr, Inhabited

/-- What is worth telling about a tree that was loaded: the nodes whose kind is not known, in order, and how much was read from a file. -/
def SourceTree.notes (t : SourceTree) : List LoadNote :=
  (otherKindsOf t.statements).map .kept ++ match t.path with
    | some path => [.loaded t.statements.length path]
    | none => []

end ApiDoc.Syntax
