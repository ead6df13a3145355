import ApiDoc.DocComment.Basic
import ApiDoc.DocComment.Decoration
import ApiDoc.DocComment.Tag
import ApiDoc.Pattern.Match
import ApiDoc.Pattern.Parse

/-!
# Parsing doc comments

The content lines of a doc comment, without those that an ignored-line pattern matches and without empty lines in front, give a summary, the first line, and a body, the rest. The body loses its tag lines. When tags are extracted it also loses the lines that a note pattern matches, and the parameters, the last result and the reminders are kept.

* `parseLines` works on content lines, with the two kinds of patterns as predicates on lines.
* `parse` compiles the patterns first. Only a doc comment needs the ignored-line patterns, and only extraction the note patterns, so an ill-formed pattern goes unnoticed elsewhere.
-/

namespace ApiDoc.DocComment

open Text

def Tag.asParam? : Tag → Option ParamTag
  | .param type name text => some ⟨String.ofList type, String.ofList name, String.ofList text⟩
  | _ => none

def Tag.asReturn? : Tag → Option ReturnTag
  | .returns type text => some ⟨String.ofList type, String.ofList text⟩
  | _ => none

def Tag.asTodo? : Tag → Option String
  | .todo text => some (String.ofList text)
  | _ => none

def isTagLine (line : Line) : Bool := (Tag.ofLine? line).isSome

/-- Joins the lines of a description, trimmed of empty lines at both ends. -/
def describe (body : List Line) : String := String.ofList (unlines (trim body))

/-- The lines from the summary on: those that no ignored-line pattern matches, without empty ones in front. -/
def relevant (ignored : Line → Bool) (content : List Line) : List Line :=
  trimFront (content.filter fun line => !ignored line)

def parseLines (ignored note : Line → Bool) (mode : Mode) (content : List Line) : Parsed :=
  let lines := relevant ignored content
  let body := lines.tail
  let summary := String.ofList (lines.headD [])
  match mode with
  | .plain => ⟨summary, describe (body.filter fun line => !isTagLine line), none, [], []⟩
  | .extract =>
    let tags := body.filterMap Tag.ofLine?
    { summary := summary
      description := describe (body.filter fun line => !isTagLine line && !note line)
      returns := (tags.filterMap Tag.asReturn?).getLast?
      params := tags.filterMap Tag.asParam?
      todo := tags.filterMap Tag.asTodo? }

/-- Whether some pattern matches a line. -/
def matchesAny (patterns : List Pattern.Regex) (line : Line) : Bool :=
  patterns.any fun p => p.matchesStart line

def compileAll (patterns : List String) : Except Pattern.Error (List Pattern.Regex) :=
  patterns.mapM Pattern.compile

/-- Parses a comment; none when it is no doc comment. -/
def parse (ignored notes : List String) (mode : Mode) (raw : String) : Except Pattern.Error (Option Parsed) := do
  if !isDocComment raw.toList then return none
  let ignored ← compileAll ignored
  let notes ← match mode with
    | .plain => pure []
    | .extract => compileAll notes
  return some (parseLines (matchesAny ignored) (matchesAny notes) mode (content raw.toList))

end ApiDoc.DocComment
