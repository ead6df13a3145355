import ApiDoc.Number.Binary64
import ApiDoc.Number.DigitLimit
import ApiDoc.Text.Blank
import ApiDoc.Text.Quoted
import ApiDoc.Text.Word

/-!
# Numbers in free text

Reads whole numbers and fractions from text that a user wrote. Blanks around a number are skipped, digits may be of any script, and a single underscore may stand between two digits.

* `readWhole` reads a whole number in a base.
* `readFraction` reads a number that may have a point and an exponent.
-/

namespace ApiDoc.Number

open Text

inductive LiteralError where
  | notWhole (base : Nat) (text : String)
  | notAFraction (text : String)
  | digits (e : TooManyDigits)
  deriving DecidableEq, Repr, Inhabited

def LiteralError.message : LiteralError → String
  | .notWhole base text =>
    "invalid literal for int() with base " ++ toString base ++ ": " ++ quotedString text
  | .notAFraction text => "could not convert string to float: " ++ quotedString text
  | .digits e => e.message

/-- A blank that may stand around a number; the separator controls may not. -/
def isOuterBlank (c : Char) : Bool := isBlank c && !(28 ≤ c.toNat && c.toNat ≤ 31)

def trimBlanks (s : List Char) : List Char :=
  ((s.dropWhile isOuterBlank).reverse.dropWhile isOuterBlank).reverse

/-- A sign in front of a number: whether it is a minus, and what follows it. -/
def takeSign : List Char → Bool × List Char
  | '-' :: cs => (true, cs)
  | '+' :: cs => (false, cs)
  | cs => (false, cs)

/-- The value of a digit in a base up to sixteen. -/
def digitIn? (base : Nat) (c : Char) : Option Nat :=
  let value? :=
    if 'a' ≤ c && c ≤ 'f' then some (c.toNat - 'a'.toNat + 10)
    else if 'A' ≤ c && c ≤ 'F' then some (c.toNat - 'A'.toNat + 10)
    else digitValue? c
  value?.filter (· < base)

/-- The values of the digits of a number. An underscore stands only between two digits. -/
def digitsIn? (base : Nat) : List Char → Option (List Nat)
  | [] => none
  | [c] => (digitIn? base c).map fun d => [d]
  | c :: '_' :: rest => do return (← digitIn? base c) :: (← digitsIn? base rest)
  | c :: rest => do return (← digitIn? base c) :: (← digitsIn? base rest)

/-- The number that digits spell in a base. -/
def inBase (base : Nat) (digits : List Nat) : Nat := digits.foldl (fun n d => base * n + d) 0

/-- The mark that may stand in front of a number in a base. -/
def baseMark? (base : Nat) : Option Char :=
  match base with
  | 2 => some 'b'
  | 8 => some 'o'
  | 16 => some 'x'
  | _ => none

/-- Leaves out the mark of a base, with an underscore after it. -/
def withoutBaseMark (base : Nat) (s : List Char) : List Char :=
  match s, baseMark? base with
  | '0' :: c :: rest, some mark =>
    if c.toLower == mark then match rest with
      | '_' :: more => more
      | _ => rest
    else s
  | _, _ => s

/-- Reads a whole number. Only in base ten there is a limit to its digits. -/
def readWhole (base : Nat) (s : List Char) : Except LiteralError Int :=
  let (negative, body) := takeSign (trimBlanks s)
  match digitsIn? base (withoutBaseMark base body) with
  | none => .error (.notWhole base (String.ofList s))
  | some ds =>
    if base == 10 && ds.length > digitLimit then .error (.digits ⟨ds.length⟩)
    else .ok (Binary64.signed negative (inBase base ds))

/-- The decimal digits of part of a number, which may be missing. -/
def decimalsIn? (s : List Char) : Option (List Nat) := if s.isEmpty then some [] else digitsIn? 10 s

def exponentIn? (s : List Char) : Option Int := do
  let (negative, body) := takeSign s
  return Binary64.signed negative (inBase 10 (← digitsIn? 10 body))

/-- Reads a number with a point or an exponent, after its sign. -/
def fractionIn? (negative : Bool) (s : List Char) : Option Binary64 := do
  let isExponentLetter (c : Char) : Bool := c == 'e' || c == 'E'
  let mantissa := s.takeWhile fun c => !isExponentLetter c
  let exponent ← match s.drop mantissa.length with
    | [] => some 0
    | _ :: rest => exponentIn? rest
  let whole ← decimalsIn? (mantissa.takeWhile (· != '.'))
  let fraction ← decimalsIn? ((mantissa.dropWhile (· != '.')).drop 1)
  if whole.isEmpty && fraction.isEmpty then none
  return .ofDecimal negative (inBase 10 (whole ++ fraction)) (exponent - fraction.length)

/-- Reads a number that may have a point and an exponent, or one of the words for infinity and for no number. -/
def readFraction (s : List Char) : Except LiteralError Binary64 :=
  let (negative, body) := takeSign (trimBlanks s)
  let word := String.ofList (body.map Char.toLower)
  if word == "inf" || word == "infinity" then .ok (.infinite negative)
  else if word == "nan" then .ok .nan
  else match fractionIn? negative body with
    | some x => .ok x
    | none => .error (.notAFraction (String.ofList s))

end ApiDoc.Number
