import ApiDoc.Logging.Record
import ApiDoc.Template.Brace
import ApiDoc.Template.Dollar
import ApiDoc.Template.Percent

/-!
# Layouts of log lines

A log line is written after a template in one of three styles. The time of a record is written after a template of its own.

* `Layout.make` checks a template, and `Layout.render` writes a record.
-/

namespace ApiDoc.Logging

/-- How values stand in a template. -/
inductive Style where
  | percent
  | brace
  | dollar
  deriving DecidableEq, Repr, Inhabited

namespace Style

def ofMark? (mark : String) : Option Style :=
  match mark with
  | "%" => some .percent
  | "\x7b" => some .brace
  | "$" => some .dollar
  | _ => none

/-- The template that shows nothing but the message. -/
def bare : Style → String
  | .percent => "%(message)s"
  | .brace => "\x7bmessage\x7d"
  | .dollar => "$\x7bmessage\x7d"

/-- Whether a template is of the right form and has a field. -/
def accepts (style : Style) (template : List Char) : Bool :=
  match style with
  | .percent => Template.Percent.hasField template
  | .brace => Template.Brace.isValid template
  | .dollar => Template.Dollar.isValid template

def render (style : Style) (values : Template.Values) (template : List Char) : Option (List Char) :=
  match style with
  | .percent => Template.Percent.render values template
  | .brace => Template.Brace.render values template
  | .dollar => Template.Dollar.render values template

/-- The texts that show that a template names the time. -/
def timeMarks : Style → List String
  | .percent => ["%(asctime)"]
  | .brace => ["\x7basctime"]
  | .dollar => ["$asctime", "$\x7basctime\x7d"]

end Style

def occursIn (part : List Char) : List Char → Bool
  | [] => part.isEmpty
  | c :: cs => part.isPrefixOf (c :: cs) || occursIn part cs

inductive TimeFormat where
  /-- With a date, and milliseconds after a comma. -/
  | standard
  | given (template : String)
  /-- What was given is no template. -/
  | unusable
  deriving DecidableEq, Repr, Inhabited

def TimeFormat.render (f : TimeFormat) (t : Stamp) : Option (List Char) :=
  match f with
  | .standard => some (t.format "%Y-%m-%d %H:%M:%S".toList ++ ',' :: padded 3 t.millisecond)
  | .given template => some (t.format template.toList)
  | .unusable => none

/-- How log lines are written. Without a template nothing can be written. -/
structure Layout where
  style : Style
  template : Option String
  timeFormat : TimeFormat
  /-- Values that records need not have. -/
  defaults : Template.Values
  deriving Inhabited

def Layout.bare : Layout := ⟨.percent, some Style.percent.bare, .standard, []⟩

/-- Writes a record as a line, without what ends it. There is none if the template does not fit the record. -/
def Layout.render (l : Layout) (r : LogRecord) : Option (List Char) := do
  let template := (← l.template).toList
  let usesTime := l.style.timeMarks.any fun mark => occursIn mark.toList template
  let time ← if usesTime then (l.timeFormat.render r.stamp).map some else some none
  l.style.render (r.values time ++ l.defaults) template

end ApiDoc.Logging
