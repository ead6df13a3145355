import ApiDoc.Number.Literal
import ApiDoc.Template.Number

/-!
# How a value is written

A value in a template can come with a specification: the character that fills it up, its place in the field, its sign, the width of the field, the mark between groups of digits, the precision, and a letter for the form. Every part may be missing.

* `Spec.parse` reads a specification, and `Spec.write` writes a value after it.
* `Spec.isPlausible` is a check of the form alone, which can be done before there is a value.
-/

namespace ApiDoc.Template

open Number (Binary64)

inductive Place where
  | left
  | right
  | center
  /-- The sign of a number stands left, its digits stand right. -/
  | betweenSign
  deriving DecidableEq, Repr, Inhabited

/-- How a value is written. -/
structure Spec where
  fill : Char
  place : Option Place
  sign : Option Char
  /-- Zero of either sign is written without one. -/
  plainZero : Bool
  alternate : Bool
  width : Nat
  group : Option Char
  precision : Option Nat
  letter : Option Char
  deriving DecidableEq, Repr, Inhabited

/-! ## Reading -/

def placeOf? (c : Char) : Option Place :=
  match c with
  | '<' => some .left
  | '>' => some .right
  | '^' => some .center
  | '=' => some .betweenSign
  | _ => none

/-- A place with the character that fills the field up. -/
def takePlace (cs : List Char) : Option Char × Option Place × List Char :=
  let alone : Option Char × Option Place × List Char := match cs with
    | c :: rest =>
      match placeOf? c with
      | some p => (none, some p, rest)
      | none => (none, none, cs)
    | [] => (none, none, [])
  match cs with
  | c :: d :: rest =>
    match placeOf? d with
    | some p => (some c, some p, rest)
    | none => alone
  | _ => alone

/-- A character at the front, if it is one of some. -/
def takeOne (chars : String) : List Char → Option Char × List Char
  | c :: rest => if chars.toList.contains c then (some c, rest) else (none, c :: rest)
  | [] => (none, [])

def takeNumber (cs : List Char) : Option Nat × List Char :=
  let digits := cs.takeWhile Text.isDigit
  let value := Number.inBase 10 (digits.filterMap Text.digitValue?)
  (if digits.isEmpty then none else some value, cs.drop digits.length)

/-- A precision after its point, which has to have digits. -/
def takePrecision? : List Char → Option (Option Nat × List Char)
  | '.' :: cs =>
    match takeNumber cs with
    | (some n, rest) => some (some n, rest)
    | (none, _) => none
  | cs => some (none, cs)

/-- Reads a specification. Zeros fill up a field that is not filled otherwise when a zero stands before its width. -/
def Spec.parse (zeroPlace : Option Place) (cs : List Char) : Option Spec := do
  let (fill, place, cs) := takePlace cs
  let (sign, cs) := takeOne "+- " cs
  let (plainZero, cs) := takeOne "z" cs
  let (alternate, cs) := takeOne "#" cs
  let (zero, cs) := if fill.isNone then takeOne "0" cs else (none, cs)
  let (width, cs) := takeNumber cs
  let (group, cs) := takeOne ",_" cs
  let (precision, cs) ← takePrecision? cs
  let letter ← match cs with
    | [] => some none
    | [c] => some (some c)
    | _ => none
  return {
    fill := fill.getD (if zero.isSome then '0' else ' ')
    place := place <|> if zero.isSome then zeroPlace else none
    sign
    plainZero := plainZero.isSome
    alternate := alternate.isSome
    width := width.getD 0
    group
    precision
    letter }

/-! ## Filling up -/

/-- Fills a text up to the width of a field. -/
def Spec.pad (spec : Spec) (default : Place) (front body : List Char) : List Char :=
  let missing := spec.width - (front.length + body.length)
  let fill (n : Nat) : List Char := List.replicate n spec.fill
  match spec.place.getD default with
  | .left => front ++ body ++ fill missing
  | .right => fill missing ++ front ++ body
  | .center => fill (missing / 2) ++ front ++ body ++ fill (missing - missing / 2)
  | .betweenSign => front ++ fill missing ++ body

/-- Digits in groups, counted from the right. -/
def grouped (mark : Char) (size : Nat) (digits : List Char) : List Char :=
  let rec go : Nat → List Char → List Char
    | _, [] => []
    | 0, c :: cs => mark :: c :: go (size - 1) cs
    | n + 1, c :: cs => c :: go n cs
  (go size digits.reverse).reverse

/-- Digits with zeros in front, as many as it takes for their groups to reach a width. -/
def groupedTo (mark : Char) (size width : Nat) (digits : List Char) : List Char :=
  -- groups of `size` digits and a mark, where the first group has a digit at least
  let full := width / (size + 1)
  let count := full * size + max 1 (width - full * (size + 1))
  let enough := if width == full * (size + 1) then full * size else count
  let digits := zeros enough digits
  let text := grouped mark size digits
  if text.length < width then grouped mark size ('0' :: digits) else text

/-- The whole digits of a number, with the rest after them. -/
def splitWhole (digits : List Char) : List Char × List Char := digits.span Char.isDigit

/-- Puts a number together: its sign, the mark of its base, its digits in groups, and what follows them. -/
def Spec.number (spec : Spec) (groupSize : Nat) (n : Figures) (whole rest : List Char) : List Char :=
  let shown : PlusSign := match spec.sign with
    | some '+' => .plus
    | some ' ' => .blank
    | _ => .none
  let front := shown.sign n.negative ++ n.mark
  let least :=
    if spec.fill == '0' && spec.place == some .betweenSign then spec.width - (front.length + rest.length) else 0
  let body := match spec.group with
    | none => whole
    | some mark => if least > 0 then groupedTo mark groupSize least whole else grouped mark groupSize whole
  spec.pad .right front (body ++ rest)

/-! ## Writing -/

/-- Writes a text. A text has neither a sign nor groups. -/
def Spec.writeText (spec : Spec) (s : List Char) : Option (List Char) :=
  let isAllowed := spec.sign.isNone && !spec.plainZero && !spec.alternate && spec.group.isNone
    && spec.place != some .betweenSign && (spec.letter.isNone || spec.letter == some 's')
  let cut := match spec.precision with
    | some n => s.take n
    | none => s
  if isAllowed then some (spec.pad .left [] cut) else none

def Spec.writeFloat (spec : Spec) (x : Binary64) : Option (List Char) :=
  let precision := spec.precision.getD 6
  let write (letter : Char) (x : Binary64) (mark : List Char) : Option (List Char) :=
    let n := Figures.ofFloat letter precision spec.alternate x
    let (whole, rest) := splitWhole n.digits
    some (spec.number 3 n whole (rest ++ mark))
  match spec.letter with
  | some '%' => write 'f' (x.mul (.ofInt 100)) ['%']
  | some 'n' => if spec.group.isSome then none else write 'g' x []
  | some letter => if "eEfFgG".toList.contains letter then write letter x [] else none
  | none =>
    let digits := match spec.precision, x with
      | some n, .finite _ m e => withPlace (generalDigits m e (max n 1) (max n 1 - 1 : Nat) spec.alternate)
      | _, _ => magnitude x.text.toList
    let (whole, rest) := splitWhole digits
    some (spec.number 3 ⟨isNegative x, [], digits⟩ whole rest)
where
  /-- Digits with a place after the point, unless there is an exponent. -/
  withPlace (digits : List Char) : List Char := if digits.all Char.isDigit then digits ++ ['.', '0'] else digits
  /-- Digits without a sign in front. -/
  magnitude : List Char → List Char
    | '-' :: digits => digits
    | digits => digits

def Spec.writeInt (spec : Spec) (n : Int) : Option (List Char) :=
  let letter := spec.letter.getD 'd'
  if "eEfFgG%".toList.contains letter then spec.writeFloat (.ofInt n)
  else if spec.precision.isSome || spec.plainZero then none
  else if letter == 'c' then
    if spec.sign.isSome || spec.alternate || spec.group.isSome || n < 0 || n ≥ 0x110000 then none
    else some (spec.pad .right [] [Char.ofNat n.toNat])
  else if letter == 'd' || letter == 'n' && spec.group.isNone then
    let figures := Figures.ofInt 'd' false n
    some (spec.number 3 figures figures.digits [])
  else if "boxX".toList.contains letter && spec.group != some ',' then
    let figures := Figures.ofInt letter spec.alternate n
    some (spec.number 4 figures figures.digits [])
  else none

/-- Writes a value after a specification. Some values can only be written without one. -/
def writeAs (v : Value) (spec : List Char) : Option (List Char) :=
  if spec.isEmpty then some v.display
  else match v with
    | .text s => (Spec.parse none spec).bind fun spec => spec.writeText s.toList
    | .int n => (Spec.parse (some .betweenSign) spec).bind fun spec => spec.writeInt n
    | .flag b => (Spec.parse (some .betweenSign) spec).bind fun spec => spec.writeInt (if b then 1 else 0)
    | .float x => (Spec.parse (some .betweenSign) spec).bind fun spec => spec.writeFloat x
    | _ => none

/-! ## The form alone -/

/-- A number, or a name in braces, which stands for a number. -/
def dropCount (cs : List Char) : List Char :=
  match cs with
  | '\x7b' :: rest =>
    let name := rest.takeWhile Text.isWord
    match name.isEmpty, rest.drop name.length with
    | false, '\x7d' :: after => after
    | _, _ => cs
  | _ => cs.dropWhile Text.isDigit

/-- Whether the part of a specification after the place has the right form. -/
def isPlausibleTail (cs : List Char) : Bool :=
  let cs := (takeOne "+- " cs).2
  let cs := (takeOne "#" cs).2
  let cs := (takeOne "0" cs).2
  let cs := (takeOne ",_" (dropCount cs)).2
  let cs := match cs with
    | '.' :: rest => if (dropCount rest).length < rest.length then dropCount rest else cs
    | _ => cs
  match (takeOne "bcdefgnosxBCDEFGNOSX%ſ" cs).2 with
  | [] | ['\n'] => true
  | _ => false

/-- Whether a specification has the right form. -/
def Spec.isPlausible (cs : List Char) : Bool :=
  let isPlace (c : Char) : Bool := (placeOf? c).isSome
  let pair := match cs with
    | c :: d :: rest => c != '\n' && isPlace d && isPlausibleTail rest
    | _ => false
  let single := match cs with
    | c :: rest => isPlace c && isPlausibleTail rest
    | [] => false
  pair || single || isPlausibleTail cs

end ApiDoc.Template
