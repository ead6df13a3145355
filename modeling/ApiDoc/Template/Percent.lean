import ApiDoc.Template.Number
import ApiDoc.Text.Word

/-!
# Templates with percent signs

A value stands in such a template as a percent sign, the name of the value in parentheses, flags, a width, a precision and a letter. Two percent signs stand for one.

* `Percent.parse` reads a template, `Percent.hasField` tells whether it has a field, and `Percent.render` puts values into it.
-/

namespace ApiDoc.Template.Percent

/-- A field of a template: the name of a value, and how it is written. -/
structure Field where
  name : String
  left : Bool
  sign : PlusSign
  alternate : Bool
  zero : Bool
  width : Nat
  precision : Option Nat
  letter : Char
  deriving DecidableEq, Repr, Inhabited

inductive Part where
  | char (c : Char)
  | field (f : Field)
  /-- What cannot be filled in. -/
  | faulty
  deriving DecidableEq, Repr, Inhabited

/-! ## Reading -/

def isFlag (c : Char) : Bool := "#0+ -".toList.contains c

def number (digits : List Char) : Nat := (String.ofList digits).toNat?.getD 0

/-- A name up to the parenthesis that closes it, where parentheses inside come in pairs. -/
def takeName (depth : Nat) : List Char → Option (List Char × List Char)
  | [] => none
  | c :: cs =>
    if c == ')' && depth == 0 then some ([], cs)
    else
      let depth := if c == '(' then depth + 1 else if c == ')' then depth - 1 else depth
      (takeName depth cs).map fun (name, rest) => (c :: name, rest)

/-- Reads a precision. A point without digits is a precision of zero. -/
def takePrecision : List Char → Option Nat × List Char
  | '.' :: cs => (some (number (cs.takeWhile Char.isDigit)), cs.dropWhile Char.isDigit)
  | cs => (none, cs)

/-- The letters that can end a field. -/
def letters : List Char := "diouxXeEfFgGcrsa".toList

/-- Leaves out a mark of length, which has no meaning. -/
def dropLengthMark : List Char → List Char
  | c :: cs => if c == 'h' || c == 'l' || c == 'L' then cs else c :: cs
  | [] => []

def readField (cs : List Char) : Part × List Char :=
  let (name, cs) := match cs with
    | '(' :: rest =>
      match takeName 0 rest with
      | some (name, rest) => (some name, rest)
      | none => (none, [])
    | _ => (none, cs)
  let flags := cs.takeWhile isFlag
  let cs := cs.drop flags.length
  let width := cs.takeWhile Char.isDigit
  let (precision, cs) := takePrecision (cs.drop width.length)
  match dropLengthMark cs with
  | [] => (.faulty, [])
  | letter :: rest =>
    match name with
    | none => (.faulty, rest)
    | some name =>
      if !letters.contains letter then (.faulty, rest)
      else
        let sign := if flags.contains '+' then .plus else if flags.contains ' ' then .blank else .none
        (.field ⟨String.ofList name, flags.contains '-', sign, flags.contains '#', flags.contains '0',
          number width, precision, letter⟩, rest)

def readPart : List Char → Part × List Char
  | '%' :: rest => (.char '%', rest)
  | cs => readField cs

/-- Reads the parts of a template. Each step takes a character at least. -/
def parts : Nat → List Char → List Part
  | 0, _ => []
  | _ + 1, [] => []
  | fuel + 1, c :: cs =>
    if c != '%' then .char c :: parts fuel cs
    else
      let (part, rest) := readPart cs
      part :: parts fuel rest

def parse (template : List Char) : List Part := parts (template.length + 1) template

/-- A count in a field: a star or digits. -/
def takeCount (cs : List Char) : List Char :=
  match cs with
  | '*' :: _ => ['*']
  | _ => cs.takeWhile Text.isDigit

/-- Whether a text after a percent sign starts with a field: a name made of word characters, and a letter in either case. -/
def startsField (cs : List Char) : Bool :=
  match cs with
  | '(' :: cs =>
    let name := cs.takeWhile Text.isWord
    match name.isEmpty, cs.drop name.length with
    | false, ')' :: cs =>
      let cs := cs.dropWhile isFlag
      let cs := cs.drop (takeCount cs).length
      let precision := match cs with
        | '.' :: rest => takeCount rest
        | _ => []
      let cs := if precision.isEmpty then cs else cs.drop (precision.length + 1)
      cs.head?.any fun c => "diouxefgcrsa%".toList.contains c.toLower
    | _, _ => false
  | _ => false

def hasField : List Char → Bool
  | [] => false
  | c :: cs => c == '%' && startsField cs || hasField cs

/-! ## Filling in -/

/-- Fills a text up to a width. -/
def fill (f : Field) (text : List Char) : List Char :=
  let blanks := List.replicate (f.width - text.length) ' '
  if f.left then text ++ blanks else blanks ++ text

def fillNumber (f : Field) (n : Figures) : List Char :=
  let front := f.sign.sign n.negative ++ n.mark
  if f.zero && !f.left then front ++ zeros (f.width - front.length) n.digits else fill f (front ++ n.digits)

/-- The letter of a field without its case where the case has no meaning. -/
def base (f : Field) : Char := if f.letter == 'i' || f.letter == 'u' then 'd' else f.letter

/-- Writes a value into a field, if it fits. -/
def write (f : Field) (v : Value) : Option (List Char) :=
  let cut (text : List Char) : List Char := match f.precision with
    | some n => text.take n
    | none => text
  match base f with
  | 's' => some (fill f (cut v.display))
  | 'r' => some (fill f (cut v.notate))
  | 'a' => some (fill f (cut v.ascii))
  | 'c' =>
    match v with
    | .text s => if s.length == 1 then some (fill f s.toList) else none
    | _ => v.int?.bind fun n => if 0 ≤ n && n < 0x110000 then some (fill f [Char.ofNat n.toNat]) else none
  | 'd' => v.truncated?.map fun n => whole 'd' n
  | 'o' => v.int?.map (whole 'o')
  | 'x' => v.int?.map (whole 'x')
  | 'X' => v.int?.map (whole 'X')
  | letter => v.float?.map fun x => fillNumber f (.ofFloat letter (f.precision.getD 6) f.alternate x)
where
  /-- Writes a whole number with at least as many digits as the precision says. -/
  whole (letter : Char) (n : Int) : List Char :=
    let figures := Figures.ofInt letter f.alternate n
    fillNumber f { figures with digits := zeros (f.precision.getD 0) figures.digits }

def renderPart (values : Values) : Part → Option (List Char)
  | .char c => some [c]
  | .field f => (values.lookup f.name).bind (write f)
  | .faulty => none

/-- Fills in a template. There is no text if a value is missing or does not fit. -/
def render (values : Values) (template : List Char) : Option (List Char) := do
  return (← (parse template).mapM (renderPart values)).flatten

end ApiDoc.Template.Percent
