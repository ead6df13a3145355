import ApiDoc.Text.Lines

/-!
# Decoration of doc comments

A doc comment opens with a slash and two stars. Its first and last lines are delimiters, and each line between carries a decoration, some blanks, a star and a space, that is not content.

* `isDocComment` is the gate.
* `content` gives the content lines with their decoration removed.
-/

namespace ApiDoc.DocComment

open Text

/-- A comment is a doc comment when it opens, after any blanks, with a slash and two stars. -/
def isDocComment (raw : List Char) : Bool :=
  match dropBlanks raw with
  | '/' :: '*' :: '*' :: _ => true
  | _ => false

/-- Removes one decoration, at least one blank followed by a star and a space, from the front of a line. -/
def undecorate (line : Line) : Line :=
  match spanBlanks line with
  | (_ :: _, '*' :: ' ' :: rest) => rest
  | _ => line

/-- A line of at least one blank, a star and nothing but blanks after it. -/
def isBareStar (line : Line) : Bool :=
  match spanBlanks line with
  | (_ :: _, '*' :: rest) => rest.all isBlank
  | _ => false

/-- Empties a line that holds nothing but a star. -/
def clearBareStar (line : Line) : Line := if isBareStar line then [] else line

/-- The content lines of a comment: the lines between the two delimiter lines, each without its decoration. -/
def content (raw : List Char) : List Line :=
  (inner ((lines raw).map undecorate)).map clearBareStar

end ApiDoc.DocComment
