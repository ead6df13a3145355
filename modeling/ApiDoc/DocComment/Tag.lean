import ApiDoc.Text.Lines

/-!
# Tags of doc comments

A line whose first character after any blanks is an at sign is a tag line. Three tags carry content: a parameter, a result and a reminder. Every other tag line is recognised only to be left out.
-/

namespace ApiDoc.DocComment

open Text

/-- What a tag line says. -/
inductive Tag where
  /-- A parameter with its type, its name with the sigil (empty when it has none) and a text. -/
  | param (type name text : List Char)
  /-- A result with its type and a text. -/
  | returns (type text : List Char)
  /-- A reminder. -/
  | todo (text : List Char)
  /-- Any other tag line. -/
  | other
  deriving DecidableEq, Repr, Inhabited

/-- What follows `word` at the front of the text, if it stands there. -/
def after? (word s : List Char) : Option (List Char) := if word.isPrefixOf s then some (s.drop word.length) else none

/-- The word after at least one blank and what follows it. -/
def blankWord? (s : List Char) : Option (List Char × List Char) :=
  match spanBlanks s with
  | (_ :: _, rest) =>
    match spanWord rest with
    | ([], _) => none
    | found => some found
  | ([], _) => none

/-- The name at the front of a parameter's text, a sigil and at least one more character up to the next blank, with what follows it. The name is empty when none stands there. -/
def splitName (s : List Char) : List Char × List Char :=
  match spanWord s with
  | ('$' :: c :: name, rest) => ('$' :: c :: name, dropBlanks rest)
  | _ => ([], s)

/-- Reads the part of a parameter tag after the tag word. -/
def param? (s : List Char) : Option Tag :=
  (blankWord? s).map fun (type, rest) =>
    let (name, text) := splitName (dropBlanks rest)
    .param type name text

/-- Reads the part of a result tag after the tag word. -/
def returns? (s : List Char) : Option Tag :=
  (blankWord? s).map fun (type, rest) => .returns type (dropBlanks rest)

/-- Drops a colon at the front. -/
def dropColon : List Char → List Char
  | ':' :: s => s
  | s => s

/-- Drops one blank at the front. -/
def dropBlank : List Char → List Char
  | [] => []
  | c :: s => if isBlank c then s else c :: s

/-- Reads the part of a reminder tag after the tag word. -/
def todo? (s : List Char) : Option Tag := some (.todo (dropBlank (dropColon s)))

/-- Reads a line that has lost its leading blanks. -/
def Tag.ofText? (s : List Char) : Option Tag :=
  ((after? "@param".toList s).bind param?)
    <|> ((after? "@return".toList s).bind returns?)
    <|> ((after? "@todo".toList s).bind todo?)
    <|> ((after? "@".toList s).map fun _ => .other)

/-- The tag a line holds; none when its first character after any blanks is not an at sign. -/
def Tag.ofLine? (line : Line) : Option Tag := Tag.ofText? (dropBlanks line)

end ApiDoc.DocComment
