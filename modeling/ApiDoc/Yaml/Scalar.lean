import ApiDoc.Yaml.Basic

/-!
# Words of a document

What a word of a document means. A plain word shows by its form what it is: a truth value, nothing, a whole number, a number with a fraction, a date, or just text. A tag in front of any text says so instead, and then the text has to fit.

* `Kind.ofWord` looks at the form of a plain word.
* `Scalar.make` gives the value of a text of some kind.
-/

namespace ApiDoc.Yaml

/-- What a node of a document is said to be. -/
inductive Kind where
  | null
  | bool
  | int
  | float
  | str
  | binary
  | timestamp
  | list
  | map
  | set
  /-- A list of pairs. -/
  | pairs
  /-- The mark of an entry that brings in the entries of other mappings. -/
  | merge
  /-- The mark of the entry that stands for its whole mapping. -/
  | standard
  | unknown
  deriving DecidableEq, Repr, Inhabited

/-- The front of the names of all known kinds. -/
def knownTag : String := "tag:yaml.org,2002:"

def Kind.names : List (String × Kind) :=
  [("null", .null), ("bool", .bool), ("int", .int), ("float", .float), ("str", .str), ("binary", .binary),
    ("timestamp", .timestamp), ("seq", .list), ("map", .map), ("set", .set), ("pairs", .pairs), ("omap", .pairs),
    ("merge", .merge), ("value", .standard)]

def Kind.ofTag (tag : String) : Kind :=
  ((Kind.names.find? fun n => knownTag ++ n.1 == tag).map Prod.snd).getD .unknown

/-! ## The form of plain words -/

def trueWords : List String := ["yes", "Yes", "YES", "true", "True", "TRUE", "on", "On", "ON"]

def falseWords : List String := ["no", "No", "NO", "false", "False", "FALSE", "off", "Off", "OFF"]

def nullWords : List String := ["", "~", "null", "Null", "NULL"]

def isDigitPart (c : Char) : Bool := c.isDigit || c == '_'

/-- Text that is not empty and holds digits of some kind and underscores only. -/
def isRun (isDigit : Char → Bool) (cs : List Char) : Bool := !cs.isEmpty && cs.all fun c => isDigit c || c == '_'

/-- A decimal number: a digit, and then digits and underscores. -/
def isDecimal : List Char → Bool
  | [] => false
  | c :: cs => c.isDigit && cs.all isDigitPart

/-- Splits a text at colons. -/
def splitColons : List Char → List (List Char)
  | [] => [[]]
  | c :: cs =>
    if c == ':' then [] :: splitColons cs
    else match splitColons cs with
      | [] => [[c]]
      | part :: rest => (c :: part) :: rest

/-- A part of a number in sixties after the first: one or two digits below sixty. -/
def isSixtieth : List Char → Bool
  | [a] => a.isDigit
  | [a, b] => '0' ≤ a && a ≤ '5' && b.isDigit
  | _ => false

/-- A number in sixties: a decimal number, and one part or more after colons. -/
def isSixties (cs : List Char) : Bool :=
  match splitColons cs with
  | first :: second :: rest => isDecimal first && (second :: rest).all isSixtieth
  | _ => false

/-- The form of a whole number after its sign. -/
def isWholeBody : List Char → Bool
  | [] => false
  | ['0'] => true
  | '0' :: 'b' :: cs => isRun (fun c => c == '0' || c == '1') cs
  | '0' :: 'x' :: cs => isRun (fun c => (Number.digitIn? 16 c).isSome && c.toNat < 128) cs
  | '0' :: cs => isRun (fun c => '0' ≤ c && c ≤ '7') cs
  | cs => isDecimal cs || isSixties cs

/-- The form of a whole number. -/
def isWholeWord (cs : List Char) : Bool := isWholeBody (Number.takeSign cs).2

def isExponent : List Char → Bool
  | [] => true
  | e :: sign :: cs =>
    (e == 'e' || e == 'E') && (sign == '-' || sign == '+') && !cs.isEmpty && cs.all Char.isDigit
  | _ => false

/-- The form of a number with a point. -/
def isFractionWord (cs : List Char) : Bool :=
  let body := (Number.takeSign cs).2
  let whole := body.takeWhile (· != '.')
  match body.dropWhile (· != '.') with
  | [] => false
  | _ :: after =>
    let word := String.ofList after
    if whole.isEmpty then
      ["inf", "Inf", "INF"].contains word
        || body.length == cs.length
          && (["nan", "NaN", "NAN"].contains word
            || after.head?.any Char.isDigit && isExponent (after.dropWhile isDigitPart))
    else isDecimal whole && isExponent (after.dropWhile isDigitPart) || isSixties whole && after.all isDigitPart

/-- What a plain word is by its form. -/
def Kind.ofWord (word : List Char) : Kind :=
  let text := String.ofList word
  if text == "<<" then .merge
  else if text == "=" then .standard
  else if ["!", "&", "*"].contains text then .unknown
  else if nullWords.contains text then .null
  else if trueWords.contains text || falseWords.contains text then .bool
  else if isFractionWord word then .float
  else if isWholeWord word then .int
  else if Timestamp.isWord word then .timestamp
  else .str

/-! ## Values -/

/-- Reads a whole number, in some base, as part of a document. -/
def readWhole (base : Nat) (cs : List Char) : Except Error Int := (Number.readWhole base cs).mapError .number

/-- The number that parts in sixties spell. -/
def inSixties (parts : List Int) : Int := parts.foldl (fun n part => 60 * n + part) 0

/-- The whole number that a text spells. Underscores do not count. -/
def wholeOf (text : List Char) : Except Error Int := do
  let (negative, body) := Number.takeSign (text.filter (· != '_'))
  let size ← match body with
    | [] => .error .noNumber
    | ['0'] => .ok 0
    | '0' :: 'b' :: cs => readWhole 2 cs
    | '0' :: 'x' :: cs => readWhole 16 cs
    | '0' :: _ => readWhole 8 body
    | _ =>
      if body.contains ':' then ((splitColons body).mapM (readWhole 10)).map inSixties
      else readWhole 10 body
  return if negative then -size else size

/-- The sum of parts in sixties, the last part first, where the unit of the first one is given. -/
def sumSixties (sum : Number.Binary64) (unit : Nat) : List Number.Binary64 → Number.Binary64
  | [] => sum
  | part :: rest => sumSixties (sum.add (part.mul (.ofInt unit))) (60 * unit) rest

/-- The number with a fraction that a text spells. Underscores do not count. -/
def fractionOf (text : List Char) : Except Error Number.Binary64 := do
  let (negative, body) := Number.takeSign ((text.filter (· != '_')).map Char.toLower)
  let size ← match body with
    | [] => if text.all (· == '_') then .error .noNumber else (Number.readFraction body).mapError .number
    | _ =>
      if String.ofList body == ".inf" then .ok (.infinite false)
      else if String.ofList body == ".nan" then .ok .nan
      else if body.contains ':' then
        (((splitColons body).mapM Number.readFraction).mapError .number).map fun parts =>
          sumSixties (.zero false) 1 parts.reverse
      else (Number.readFraction body).mapError .number
  return if negative then size.neg else size

/-- The truth value that a word names, in any case. -/
def truthOf (text : List Char) : Except Error Bool :=
  let word := String.ofList (text.map Char.toLower)
  if trueWords.contains word then .ok true
  else if falseWords.contains word then .ok false
  else .error (.truth word)

def timestampOf (text : List Char) : Except Error Timestamp :=
  match Timestamp.read? text with
  | none => .error .noDate
  | some t => t.check.mapError .calendar

/-- The value of a letter that stands for six bits. -/
def sextet? (c : Char) : Option Nat :=
  if 'A' ≤ c && c ≤ 'Z' then some (c.toNat - 'A'.toNat)
  else if 'a' ≤ c && c ≤ 'z' then some (c.toNat - 'a'.toNat + 26)
  else if c.isDigit then some (c.toNat - '0'.toNat + 52)
  else if c == '+' then some 62
  else if c == '/' then some 63
  else none

/-- The bytes that letters stand for, four letters for three bytes. -/
def bytesOf : List Nat → Option (List UInt8)
  | [] => some []
  | [_] => none
  | [a, b] => some [(a * 4 + b / 16).toUInt8]
  | [a, b, c] => some [(a * 4 + b / 16).toUInt8, (b % 16 * 16 + c / 4).toUInt8]
  | a :: b :: c :: d :: rest => (bytesOf rest).map fun more =>
      (a * 4 + b / 16).toUInt8 :: (b % 16 * 16 + c / 4).toUInt8 :: (c % 4 * 64 + d).toUInt8 :: more

/-- The bytes that a text stands for. It is filled up with equals signs to a multiple of four letters. -/
def binaryOf (text : List Char) : Except Error (List UInt8) :=
  let letters := (text.takeWhile (· != '=')).filterMap sextet?
  let filling := (text.dropWhile (· != '=')).filter (· == '=')
  if text.any (fun c => c.toNat ≥ 128) || (4 - letters.length % 4) % 4 > filling.length then .error .malformed
  else match bytesOf letters with
    | some bytes => .ok bytes
    | none => .error .malformed

/-- The value of a text of some kind. -/
def Scalar.make (kind : Kind) (text : List Char) : Except Error Scalar :=
  match kind with
  | .null => .ok .null
  | .bool => (truthOf text).map .bool
  | .int => (wholeOf text).map .int
  | .float => (fractionOf text).map .float
  | .str => .ok (.str (String.ofList text))
  | .binary => (binaryOf text).map .binary
  | .timestamp => (timestampOf text).map .timestamp
  | _ => .error .malformed

end ApiDoc.Yaml
