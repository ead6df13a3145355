/-!
# Reading whole numbers

Decimal digits are read as a natural number. A run of more than 4300 digits is refused, so that reading stays cheap whatever the input holds.
-/

namespace ApiDoc.Number

/-- The greatest number of digits that is read as a number. -/
def digitLimit : Nat := 4300

/-- A run of digits too long to be read. -/
structure TooManyDigits where
  digits : Nat
  deriving DecidableEq, Repr, Inhabited

/-- The message for a run of digits that is too long. -/
def TooManyDigits.message (e : TooManyDigits) : String :=
  "Exceeds the limit (4300 digits) for integer string conversion: value has " ++ toString e.digits
    ++ " digits; use sys.set_int_max_str_digits() to increase the limit"

/-- The value of a decimal digit. -/
def digitValue (c : Char) : Nat := c.toNat - '0'.toNat

def ofDigits (digits : List Char) : Nat := digits.foldl (fun n c => 10 * n + digitValue c) 0

/-- The number that decimal digits spell, if they are not too many. -/
def readDigits (digits : List Char) : Except TooManyDigits Nat :=
  if digits.length > digitLimit then .error ⟨digits.length⟩ else .ok (ofDigits digits)

end ApiDoc.Number
