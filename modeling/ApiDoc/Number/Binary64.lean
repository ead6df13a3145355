/-!
# Binary floating point numbers

Numbers of the 64-bit binary format, kept as a whole mantissa and a power of two, so that reading and printing are exact arithmetic on whole numbers.

* `ofDecimal` rounds a decimal to the nearest number, a tie to the even mantissa.
* `add` and `mul` are exact up to one such rounding.
* `toInt?` gives the value of a number that is whole.
-/

namespace ApiDoc.Number

/-- A number of the binary format. A finite one is `mantissa * 2 ^ exponent`, up to its sign, with a mantissa below `2 ^ 53` and an exponent of at least `-1074`; unless the exponent is the least one, the mantissa is at least `2 ^ 52`. -/
inductive Binary64 where
  | nan
  | infinite (negative : Bool)
  | finite (negative : Bool) (mantissa : Nat) (exponent : Int)
  deriving DecidableEq, Repr, Inhabited

namespace Binary64

/-- The quotient rounded to the nearest whole number, a tie to the even one. -/
def roundDiv (num den : Nat) : Nat :=
  let q := num / den
  let r := num % den
  if 2 * r < den then q else if 2 * r > den then q + 1 else if q % 2 == 0 then q else q + 1

/-- The exponent for a quotient: the mantissa is then of 53 bits, or the exponent is the least one. -/
def exponentFor (num den : Nat) : Int :=
  let guess : Int := (Nat.log2 num : Int) - (Nat.log2 den : Int) - 52
  -- the quotient lies between `2 ^ (guess + 51)` and `2 ^ (guess + 53)`
  let low :=
    if guess ≥ 0 then num < den * Nat.pow 2 (guess.toNat + 52)
    else num * Nat.pow 2 (-guess).toNat < den * Nat.pow 2 52
  max (if low then guess - 1 else guess) (-1074)

/-- The number nearest to a positive quotient. -/
def ofQuotient (negative : Bool) (num den : Nat) : Binary64 :=
  let e := exponentFor num den
  let m :=
    if e ≥ 0 then roundDiv num (den * Nat.pow 2 e.toNat)
    else roundDiv (num * Nat.pow 2 (-e).toNat) den
  let (m, e) := if m == Nat.pow 2 53 then (Nat.pow 2 52, e + 1) else (m, e)
  if e > 971 then .infinite negative else .finite negative m e

def zero (negative : Bool) : Binary64 := .finite negative 0 (-1074)

/-- The number nearest to `digits * 10 ^ exponent`. Decimals far outside the range are settled without computing the power. -/
def ofDecimal (negative : Bool) (digits : Nat) (exponent : Int) : Binary64 :=
  let size : Int := (Nat.toDigits 10 digits).length
  if digits == 0 || size + exponent < -400 then zero negative
  else if size + exponent > 400 then .infinite negative
  else if exponent ≥ 0 then ofQuotient negative (digits * Nat.pow 10 exponent.toNat) 1
  else ofQuotient negative digits (Nat.pow 10 (-exponent).toNat)

def neg : Binary64 → Binary64
  | .nan => .nan
  | .infinite negative => .infinite !negative
  | .finite negative m e => .finite (!negative) m e

/-- The number nearest to `n * 2 ^ exponent`, where zero has a given sign. -/
def ofScaled (zeroSign : Bool) (n : Int) (exponent : Int) : Binary64 :=
  if n == 0 then zero zeroSign
  else ofQuotient (n < 0) (n.natAbs * Nat.pow 2 exponent.toNat) (Nat.pow 2 (-exponent).toNat)

def ofInt (n : Int) : Binary64 := ofScaled false n 0

/-- A whole number that is a mantissa with a sign. -/
def signed (negative : Bool) (m : Nat) : Int := if negative then -(m : Int) else m

/-- The sum, rounded to the nearest number. -/
def add : Binary64 → Binary64 → Binary64
  | .nan, _ | _, .nan => .nan
  | .infinite a, .infinite b => if a == b then .infinite a else .nan
  | .infinite a, _ | _, .infinite a => .infinite a
  | .finite a m e, .finite b n f =>
    let low := min e f
    ofScaled (a && b)
      (signed a m * Nat.pow 2 (e - low).toNat + signed b n * Nat.pow 2 (f - low).toNat) low

def mul : Binary64 → Binary64 → Binary64
  | .nan, _ | _, .nan => .nan
  | .infinite a, .infinite b => .infinite (a != b)
  | .infinite a, .finite b n _ | .finite b n _, .infinite a => if n == 0 then .nan else .infinite (a != b)
  | .finite a m e, .finite b n f => ofScaled (a != b) (signed (a != b) (m * n)) (e + f)

def isZero : Binary64 → Bool
  | .finite _ m _ => m == 0
  | _ => false

/-- The value of a number that is whole. -/
def toInt? : Binary64 → Option Int
  | .finite negative m e =>
    let size : Option Nat :=
      if e ≥ 0 then some (m * Nat.pow 2 e.toNat)
      else if m % Nat.pow 2 (-e).toNat == 0 then some (m / Nat.pow 2 (-e).toNat) else none
    size.map fun n => if negative then -(n : Int) else n
  | _ => none

end Binary64

end ApiDoc.Number
