import ApiDoc.Template.Value

/-!
# Templates with dollar signs

A value stands in such a template as a dollar sign and its name, between braces or not. Two dollar signs stand for one; a dollar sign before anything else is a fault.

* `Dollar.parse` reads a template, and `Dollar.render` puts values into it.
-/

namespace ApiDoc.Template.Dollar

inductive Part where
  | char (c : Char)
  | field (name : String)
  /-- A dollar sign that has no meaning. -/
  | bare
  deriving DecidableEq, Repr, Inhabited

/-- A character that names start with: a letter or an underscore. -/
def startsName (c : Char) : Bool := c.isAlpha || c == '_'

def isNameChar (c : Char) : Bool := startsName c || c.isDigit

def readName (cs : List Char) : List Char := if cs.head?.any startsName then cs.takeWhile isNameChar else []

def readPart (cs : List Char) : Part × List Char :=
  let name := readName cs
  match cs with
  | '$' :: rest => (.char '$', rest)
  | '\x7b' :: rest =>
    let name := readName rest
    match name.isEmpty, rest.drop name.length with
    | false, '\x7d' :: after => (.field (String.ofList name), after)
    | _, _ => (.bare, cs)
  | _ => if name.isEmpty then (.bare, cs) else (.field (String.ofList name), cs.drop name.length)

/-- Reads the parts of a template. Each step takes a character at least. -/
def parts : Nat → List Char → List Part
  | 0, _ => []
  | _ + 1, [] => []
  | fuel + 1, c :: cs =>
    if c != '$' then .char c :: parts fuel cs
    else
      let (part, rest) := readPart cs
      part :: parts fuel rest

def parse (template : List Char) : List Part := parts (template.length + 1) template

/-- Whether a template has a field, and no dollar sign without a meaning. -/
def isValid (template : List Char) : Bool :=
  let parts := parse template
  !parts.contains .bare && parts.any fun
    | .field _ => true
    | _ => false

def renderPart (values : Values) : Part → Option (List Char)
  | .char c => some [c]
  | .field name => (values.lookup name).map Value.display
  | .bare => none

/-- Fills in a template. There is no text if a value is missing. -/
def render (values : Values) (template : List Char) : Option (List Char) := do
  return (← (parse template).mapM (renderPart values)).flatten

end ApiDoc.Template.Dollar
