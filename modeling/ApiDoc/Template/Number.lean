import ApiDoc.Template.Value

/-!
# Numbers in templates

How numbers are written when a template says how many places they have: with a fixed number of places, with an exponent, or in whichever of the two forms is shorter. All digits are exact, a tie goes to the even digit.

* `Figures` holds the parts of a number, and `Figures.fill` puts them together in a given width.
-/

namespace ApiDoc.Template

open Number (Binary64)

/-- The parts of a number as it is written: its sign, the mark of its base, and its digits. -/
structure Figures where
  negative : Bool
  mark : List Char
  digits : List Char
  deriving DecidableEq, Repr, Inhabited

/-- How a number without a minus shows its sign. -/
inductive PlusSign where
  | none
  | blank
  | plus
  deriving DecidableEq, Repr, Inhabited

def PlusSign.sign (p : PlusSign) (negative : Bool) : List Char :=
  if negative then ['-']
  else match p with
    | .none => []
    | .blank => [' ']
    | .plus => ['+']

/-- Digits with zeros in front, up to a number of digits. -/
def zeros (count : Nat) (digits : List Char) : List Char := List.replicate (count - digits.length) '0' ++ digits

def fixedDigits (m : Nat) (e : Int) (places : Nat) (keepPoint : Bool) : List Char :=
  let (num, den) := Binary64.quotient m e
  let digits := zeros (places + 1) (Nat.toDigits 10 (Binary64.roundDiv (num * Nat.pow 10 places) den))
  let whole := digits.take (digits.length - places)
  let fraction := digits.drop (digits.length - places)
  whole ++ if fraction.isEmpty && !keepPoint then [] else '.' :: fraction

/-- The first digits of a number, as many as asked for, and the power of ten of the first one. -/
def leadingDigits (m : Nat) (e : Int) (count : Nat) : List Char × Int :=
  if m == 0 then (List.replicate count '0', 0)
  else
    let (num, den) := Binary64.quotient m e
    let size := Binary64.decimalSize num den
    let (n, d) := Binary64.scaled num den (count - size)
    let rounded := Binary64.roundDiv n d
    if rounded == Nat.pow 10 count then (Nat.toDigits 10 (rounded / 10), size) else (Nat.toDigits 10 rounded, size - 1)

/-- Digits with a point after the first one and an exponent. -/
def withExponent (digits : List Char) (exponent : Int) (keepPoint : Bool) : List Char :=
  let fraction := digits.drop 1
  digits.take 1 ++ (if fraction.isEmpty && !keepPoint then [] else '.' :: fraction)
    ++ ['e', if exponent < 0 then '-' else '+'] ++ zeros 2 (Nat.toDigits 10 exponent.natAbs)

/-- Digits without the zeros at the end. -/
def trimZeros (digits : List Char) : List Char := (digits.reverse.dropWhile (· == '0')).reverse

/-- Digits with a point where the power of ten of the first digit puts it. -/
def withPoint (digits : List Char) (exponent : Int) (keepPoint : Bool) : List Char :=
  let (whole, fraction) :=
    if exponent < 0 then (['0'], List.replicate (-exponent - 1).toNat '0' ++ digits)
    else
      let count := exponent.toNat + 1
      (digits.take count ++ List.replicate (count - digits.length) '0', digits.drop count)
  whole ++ if fraction.isEmpty && !keepPoint then [] else '.' :: fraction

/-- A number with some significant digits. It has an exponent when the power of ten of its first digit is small or not below a bound. Zeros at the end are left out unless they are to be kept. -/
def generalDigits (m : Nat) (e : Int) (count : Nat) (bound : Int) (keepZeros : Bool) : List Char :=
  let (digits, exponent) := leadingDigits m e count
  if -4 ≤ exponent && exponent < bound then
    withPoint (if keepZeros then digits else trimZeros digits) exponent keepZeros
  else withExponent (if keepZeros then digits else digits.take 1 ++ trimZeros (digits.drop 1)) exponent keepZeros

/-- The digits of a number for one of the letters `e`, `f` and `g`. -/
def floatDigits (letter : Char) (precision : Nat) (alternate : Bool) : Binary64 → List Char
  | .nan => "nan".toList
  | .infinite _ => "inf".toList
  | .finite _ m e =>
    if letter == 'f' then fixedDigits m e precision alternate
    else if letter == 'e' then
      let (digits, exponent) := leadingDigits m e (precision + 1)
      withExponent digits exponent alternate
    else generalDigits m e (max precision 1) (max precision 1) alternate

def isNegative : Binary64 → Bool
  | .nan => false
  | .infinite negative | .finite negative _ _ => negative

/-- The parts of a number for one of the letters `e`, `f` and `g`, which is a capital where capitals are to be written. -/
def Figures.ofFloat (letter : Char) (precision : Nat) (alternate : Bool) (x : Binary64) : Figures :=
  let digits := floatDigits letter.toLower precision alternate x
  ⟨isNegative x, [], if letter.isUpper then digits.map Char.toUpper else digits⟩

/-- The base that a letter stands for, and the mark of that base. -/
def baseOf (letter : Char) : Nat × List Char :=
  match letter with
  | 'b' => (2, ['0', 'b'])
  | 'o' => (8, ['0', 'o'])
  | 'x' => (16, ['0', 'x'])
  | 'X' => (16, ['0', 'X'])
  | _ => (10, [])

/-- The parts of a whole number in the base that a letter stands for. -/
def Figures.ofInt (letter : Char) (marked : Bool) (n : Int) : Figures :=
  let (base, mark) := baseOf letter
  let digits := Nat.toDigits base n.natAbs
  ⟨n < 0, if marked then mark else [], if letter == 'X' then digits.map Char.toUpper else digits⟩

end ApiDoc.Template
