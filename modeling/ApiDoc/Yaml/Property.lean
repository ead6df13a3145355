import ApiDoc.Text.Utf8
import ApiDoc.Yaml.Quoted

/-!
# Properties of nodes

In front of a node its properties may stand: an anchor, which gives it a name, and a tag, which says what it is. Directives at the top of a document say which version it is written for and which short forms its tags use.

* `readAnchor`, `readTag` and `readDirective` read one of these; nothing is read from a text that has none.
-/

namespace ApiDoc.Yaml

/-- A tag as it is written: a short form in front, if there is one, and the rest. -/
structure Tag where
  handle : Option (List Char)
  suffix : List Char
  deriving DecidableEq, Repr, Inhabited

inductive Directive where
  /-- The version that a document is written for, by its first number. -/
  | version (major : Nat)
  /-- What a short form in front of tags stands for. -/
  | tag (handle long : List Char)
  | other
  deriving DecidableEq, Repr, Inhabited

def isNameChar (c : Char) : Bool := c.isAlphanum || c == '-' || c == '_'

def isTagChar (c : Char) : Bool := c.isAlphanum || "-;/?:@&=+$,_.!~*'()[]%".toList.contains c

/-- Whether a text is at its end or goes on with a space or a line break. -/
def atSpace : List Char → Bool
  | [] => true
  | c :: _ => c == ' ' || isBreak c

/-- Whether a text is at the end of a line. -/
def atLineEnd : List Char → Bool
  | [] => true
  | c :: _ => isBreak c

/-- Reads a name that is followed by what may follow an anchor. -/
def readAnchor (s : List Char) : Option (List Char × List Char) :=
  let name := s.takeWhile isNameChar
  let rest := s.drop name.length
  if name.isEmpty then none
  else if atBlank rest || rest.head?.any fun c => "?:,]\x7d%@\x60".toList.contains c then some (name, rest)
  else none

def decodeBytes (bytes : List Nat) : Option (List Char) :=
  match Text.decodeFrom 0 bytes with
  | .ok cs => some cs
  | .error _ => none

/-- Replaces escapes, which are a percent sign and two digits each, and stand for bytes. -/
def unescape (pending : List Nat) : List Char → Option (List Char)
  | [] => decodeBytes pending
  | '%' :: a :: b :: rest => do unescape (pending ++ [16 * (← hexDigit? a) + (← hexDigit? b)]) rest
  | c :: rest => do
    if c == '%' then none
    return (← decodeBytes pending) ++ c :: (← unescape [] rest)

def readLongForm (s : List Char) : Option (List Char × List Char) := do
  let run := s.takeWhile isTagChar
  if run.isEmpty then none
  return (← unescape [] run, s.drop run.length)

/-- Reads a short form after its first exclamation mark: a name that may be empty, and another mark. -/
def readHandle (s : List Char) : Option (List Char × List Char) :=
  let name := s.takeWhile isNameChar
  match s.drop name.length with
  | '!' :: rest => some ('!' :: name ++ ['!'], rest)
  | _ => none

/-- A tag that a space or a line break follows. -/
def finishTag (tag : Tag) (rest : List Char) : Option (Tag × List Char) := if atSpace rest then some (tag, rest) else none

def readTag (s : List Char) : Option (Tag × List Char) := do
  match s with
  | '<' :: s =>
    let (long, s) ← readLongForm s
    let '>' :: s := s | none
    finishTag ⟨none, long⟩ s
  | _ =>
    if atBlank s then finishTag ⟨none, ['!']⟩ s
    else
      let word := s.takeWhile fun c => !(c == ' ' || isBreak c)
      let (handle, s) ← if word.contains '!' then readHandle s else some (['!'], s)
      let (long, s) ← readLongForm s
      finishTag ⟨some handle, long⟩ s

def dropSpaces (s : List Char) : List Char := s.dropWhile (· == ' ')

/-- Goes to the end of a line on which at most a comment is left. -/
def toLineEnd (s : List Char) : Option (List Char) :=
  match dropSpaces s with
  | '#' :: rest => some (rest.dropWhile fun c => !isBreak c)
  | rest => if atLineEnd rest then some rest else none

def readVersionNumber (s : List Char) : Option (Nat × List Char) :=
  let run := s.takeWhile Char.isDigit
  if run.isEmpty then none else some (Number.ofDigits run, s.drop run.length)

def readVersion (s : List Char) : Option (Directive × List Char) := do
  let (major, s) ← readVersionNumber (dropSpaces s)
  let '.' :: s := s | none
  let (_, s) ← readVersionNumber s
  if atSpace s then return (.version major, s) else none

/-- Reads the short form and the long form of a directive. -/
def readTagDirective (s : List Char) : Option (Directive × List Char) := do
  let '!' :: s := dropSpaces s | none
  let (handle, s) ← match s with
    | ' ' :: _ => some (['!'], s)
    | _ => readHandle s
  let ' ' :: s := s | none
  let (long, s) ← readLongForm (dropSpaces s)
  if atSpace s then return (.tag handle long, s) else none

/-- Reads a directive after its percent sign, up to the end of its line. -/
def readDirective (s : List Char) : Option (Directive × List Char) := do
  let name := s.takeWhile isNameChar
  let s := s.drop name.length
  if name.isEmpty || !atSpace s then none
  let (directive, s) ←
    if String.ofList name == "YAML" then readVersion s
    else if String.ofList name == "TAG" then readTagDirective s
    else some (.other, s.dropWhile fun c => !isBreak c)
  return (directive, ← toLineEnd s)

end ApiDoc.Yaml
