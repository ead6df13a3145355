/-!
# Paths

Paths of files with slashes between their names. A path is kept in a normal form: without empty names and without names that are a single dot. Names that are two dots stay, since they may lead through a link.
-/

namespace ApiDoc.Storage

/-- A path: how many slashes it starts with (two are told apart from one, more are one), and its names. -/
structure Path where
  slashes : Nat
  names : List String
  deriving DecidableEq, Repr, Inhabited

def splitSlashes : List Char → List (List Char)
  | [] => [[]]
  | c :: cs =>
    if c == '/' then [] :: splitSlashes cs
    else match splitSlashes cs with
      | [] => [[c]]
      | name :: rest => (c :: name) :: rest

def Path.ofString (text : String) : Path :=
  let chars := text.toList
  let leading := (chars.takeWhile (· == '/')).length
  let names := (splitSlashes chars).filter fun name => !name.isEmpty && name != ['.']
  ⟨if leading > 2 then 1 else leading, names.map String.ofList⟩

/-- The text of a path; a single dot for the path of no names. -/
def Path.text (p : Path) : String :=
  if p.slashes == 0 && p.names.isEmpty then "."
  else String.ofList (List.replicate p.slashes '/') ++ "/".intercalate p.names

def normalPath (text : String) : String := (Path.ofString text).text

end ApiDoc.Storage
