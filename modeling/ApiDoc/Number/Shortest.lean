import ApiDoc.Number.Binary64

/-!
# The shortest decimal of a number

A number is printed with the fewest digits that read back as that number; of several such decimals the nearest one is taken. Numbers from `10 ^ -4` up to `10 ^ 16` are written with a point, others with an exponent.
-/

namespace ApiDoc.Number.Binary64

/-- A decimal: `digits * 10 ^ exponent`. -/
structure Decimal where
  digits : Nat
  exponent : Int
  deriving DecidableEq, Repr, Inhabited

def quotient (m : Nat) (e : Int) : Nat × Nat :=
  if e ≥ 0 then (m * Nat.pow 2 e.toNat, 1) else (m, Nat.pow 2 (-e).toNat)

/-- The power of ten just above a positive quotient: the least `k` with the quotient below `10 ^ k`. -/
def decimalSize (num den : Nat) : Int :=
  let whole := num / den
  if whole > 0 then (Nat.toDigits 10 whole).length
  else
    -- a quotient below one: count the tenths that fit
    let inverse := den / num
    let guess : Int := (Nat.toDigits 10 inverse).length
    if num * Nat.pow 10 (guess.toNat - 1) ≥ den then 1 - guess + 1 else 1 - guess

/-- Scales a quotient by a power of ten. -/
def scaled (num den : Nat) (k : Int) : Nat × Nat :=
  if k ≥ 0 then (num * Nat.pow 10 k.toNat, den) else (num, den * Nat.pow 10 (-k).toNat)

/-- The decimals with a given number of digits next to a number that read back as it, nearest first. -/
def candidates (m : Nat) (e : Int) (count : Nat) : List Decimal :=
  let (num, den) := quotient m e
  let exponent := decimalSize num den - count
  let (n, d) := scaled num den (-exponent)
  let below := n / d
  let r := n % d
  let near := if 2 * r < d || (2 * r == d && below % 2 == 0) then [below, below + 1] else [below + 1, below]
  (near.map fun digits => ⟨digits, exponent⟩).filter fun c =>
    ofDecimal false c.digits c.exponent == .finite false m e

/-- The decimal with the fewest digits that reads back as a positive number. Seventeen digits always suffice. -/
def shortest (m : Nat) (e : Int) : Decimal :=
  ((List.range 17).findSome? fun i => (candidates m e (i + 1)).head?).getD ⟨m, e⟩

/-- The digits of a decimal without the zeros at the end. -/
def significant (d : Decimal) : List Char :=
  ((Nat.toDigits 10 d.digits).reverse.dropWhile (· == '0')).reverse

/-- How a finite positive number is written: `digits` with the point after `point` of them, or before them when `point` is not positive. -/
def layout (digits : List Char) (point : Int) : List Char :=
  if point > 16 || point < -3 then
    let exponent := point - 1
    let size := Nat.toDigits 10 exponent.natAbs
    let fraction := digits.drop 1
    digits.take 1 ++ (if fraction.isEmpty then [] else '.' :: fraction) ++ ['e', if exponent < 0 then '-' else '+']
      ++ List.replicate (2 - size.length) '0' ++ size
  else if point ≤ 0 then '0' :: '.' :: List.replicate (-point).toNat '0' ++ digits
  else
    let whole := digits.take point.toNat
    let fraction := digits.drop point.toNat
    whole ++ List.replicate (point.toNat - whole.length) '0' ++ '.' :: (if fraction.isEmpty then ['0'] else fraction)

def text : Binary64 → String
  | .nan => "nan"
  | .infinite negative => if negative then "-inf" else "inf"
  | .finite negative m e =>
    let sign := if negative then ['-'] else []
    if m == 0 then String.ofList (sign ++ "0.0".toList)
    else
      let d := shortest m e
      let point := d.exponent + (Nat.toDigits 10 d.digits).length
      String.ofList (sign ++ layout (significant d) point)

end ApiDoc.Number.Binary64
