import ApiDoc.Template.Spec
import ApiDoc.Text.Word

/-!
# Templates with braces

A value stands in such a template as its name between braces, with an optional conversion after an exclamation mark, and an optional specification after a colon. Two braces stand for one. A specification may hold such fields itself.

* `Brace.parse` reads a template, `Brace.isValid` checks its form, and `Brace.render` puts values into it.
-/

namespace ApiDoc.Template.Brace

structure Field where
  name : List Char
  conversion : Option Char
  spec : List Char
  deriving DecidableEq, Repr, Inhabited

inductive Part where
  | char (c : Char)
  | field (f : Field)
  deriving DecidableEq, Repr, Inhabited

/-! ## Reading -/

/-- Reads a name up to a mark that ends it, which is given with what follows. Brackets in a name may hold such marks. -/
def takeName (inBrackets : Bool) : List Char → Option (List Char × Char × List Char)
  | [] => none
  | c :: cs =>
    if inBrackets then (takeName (c != ']') cs).map fun (name, rest) => (c :: name, rest)
    else if c == '\x7b' then none
    else if c == '\x7d' || c == ':' || c == '!' then some ([], c, cs)
    else (takeName (c == '[') cs).map fun (name, rest) => (c :: name, rest)

/-- Reads a specification up to the brace that closes the field. -/
def takeSpec (depth : Nat) : List Char → Option (List Char × List Char)
  | [] => none
  | c :: cs =>
    if c == '\x7d' && depth == 0 then some ([], cs)
    else
      let depth := if c == '\x7b' then depth + 1 else if c == '\x7d' then depth - 1 else depth
      (takeSpec depth cs).map fun (spec, rest) => (c :: spec, rest)

def takeField (cs : List Char) : Option (Field × List Char) := do
  match ← takeName false cs with
  | (name, '\x7d', rest) => return (⟨name, none, []⟩, rest)
  | (name, ':', rest) =>
    let (spec, rest) ← takeSpec 0 rest
    return (⟨name, none, spec⟩, rest)
  | (name, _, c :: '\x7d' :: rest) => return (⟨name, some c, []⟩, rest)
  | (name, _, c :: ':' :: rest) =>
    let (spec, rest) ← takeSpec 0 rest
    return (⟨name, some c, spec⟩, rest)
  | _ => none

/-- Reads the parts of a template. Each step takes a character at least. -/
def parts : Nat → List Char → Option (List Part)
  | 0, _ => none
  | _ + 1, [] => some []
  | fuel + 1, '\x7b' :: '\x7b' :: cs => (parts fuel cs).map (.char '\x7b' :: ·)
  | fuel + 1, '\x7d' :: '\x7d' :: cs => (parts fuel cs).map (.char '\x7d' :: ·)
  | _ + 1, '\x7d' :: _ => none
  | fuel + 1, '\x7b' :: cs => do
    let (field, rest) ← takeField cs
    return .field field :: (← parts fuel rest)
  | fuel + 1, c :: cs => (parts fuel cs).map (.char c :: ·)

def parse (template : List Char) : Option (List Part) := parts (template.length + 1) template

/-! ## The form alone -/

/-- Whether the steps after the first name of a field have the right form. Each step takes a character at least. -/
def arePlausibleSteps : Nat → List Char → Bool
  | 0, _ => false
  | _ + 1, [] | _ + 1, ['\n'] => true
  | fuel + 1, '.' :: cs =>
    let name := cs.takeWhile Text.isWord
    !name.isEmpty && arePlausibleSteps fuel (cs.drop name.length)
  | fuel + 1, '[' :: cs =>
    let key := cs.takeWhile (· != ']')
    !key.isEmpty && cs.length > key.length && arePlausibleSteps fuel (cs.drop (key.length + 1))
  | _ + 1, _ => false

/-- Whether the name of a field has the right form. -/
def isPlausibleName (name : List Char) : Bool :=
  let first := name.takeWhile Text.isWord
  !first.isEmpty && arePlausibleSteps (name.length + 1) (name.drop first.length)

/-- Whether a field has the right form; a field may have no name. -/
def Field.isPlausible (f : Field) : Bool :=
  (f.name.isEmpty || isPlausibleName f.name) && f.conversion.all ("rsa".toList.contains ·)
    && (f.spec.isEmpty || Spec.isPlausible f.spec)

/-- Whether a template can be read, has fields of the right form only, and one with a name at least. -/
def isValid (template : List Char) : Bool :=
  match parse template with
  | none => false
  | some parts =>
    let fields := parts.filterMap fun
      | .field f => some f
      | .char _ => none
    fields.all Field.isPlausible && fields.any fun f => !f.name.isEmpty

/-! ## Filling in -/

/-- The value that an index in brackets leads to. -/
def itemAt (v : Value) (key : List Char) : Option Value :=
  if key.isEmpty || !key.all Char.isDigit then none
  else
    let index := Number.inBase 10 (key.filterMap Text.digitValue?)
    match v with
    | .text s => (s.toList.drop index).head?.map fun c => .text (String.ofList [c])
    | .row items => (items.drop index).head?
    | _ => none

/-- Goes the steps after the first name of a field. Only steps in brackets lead anywhere. -/
def follow : Nat → Value → List Char → Option Value
  | 0, _, _ => none
  | _ + 1, v, [] => some v
  | fuel + 1, v, '[' :: cs =>
    let key := cs.takeWhile (· != ']')
    if cs.length ≤ key.length then none
    else (itemAt v key).bind fun item => follow fuel item (cs.drop (key.length + 1))
  | _ + 1, _, _ => none

def valueOf (values : Values) (name : List Char) : Option Value :=
  let first := name.takeWhile fun c => c != '.' && c != '['
  match values.lookup (String.ofList first) with
  | some v => follow (name.length + 1) v (name.drop first.length)
  | none => none

def convert (v : Value) : Option Char → Option Value
  | none => some v
  | some 's' => some (.text (String.ofList v.display))
  | some 'r' => some (.text (String.ofList v.notate))
  | some 'a' => some (.text (String.ofList v.ascii))
  | some _ => none

/-- Fills in a template, which may have fields in the specifications of fields down to a depth. There is no text if a value is missing or does not fit. -/
def renderAt (values : Values) : Nat → List Char → Option (List Char)
  | 0, _ => none
  | depth + 1, template => do
    let pieces ← (← parse template).mapM fun
      | .char c => some [c]
      | .field f => do
        let v ← convert (← valueOf values f.name) f.conversion
        let spec ← if f.spec.contains '\x7b' then renderAt values depth f.spec else some f.spec
        writeAs v spec
    return pieces.flatten

def render (values : Values) (template : List Char) : Option (List Char) := renderAt values 2 template

end ApiDoc.Template.Brace
