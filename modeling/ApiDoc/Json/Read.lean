import ApiDoc.Json.Basic
import ApiDoc.Number.DigitLimit

/-!
# Reading JSON

Reads a JSON text, or says what is wrong with it and where. Besides the standard, the words for infinities and for no number are accepted, and of members with one name the last counts. Strings hold characters only: escapes can spell half a pair of code units on its own, which is no character, and a text with one is refused.

Inside, a fault says how many characters were left; `Json.parse` turns that into an offset, a line and a column.
-/

namespace ApiDoc.Json

inductive Cause where
  | expectingValue
  | expectingComma
  | expectingColon
  | expectingName
  | extraData
  | unterminatedString
  | controlCharacter
  | unknownEscape
  | unicodeEscape
  | loneHalf
  | byteOrderMark
  deriving DecidableEq, Repr, Inhabited

def Cause.text : Cause → String
  | .expectingValue => "Expecting value"
  | .expectingComma => "Expecting ',' delimiter"
  | .expectingColon => "Expecting ':' delimiter"
  | .expectingName => "Expecting property name enclosed in double quotes"
  | .extraData => "Extra data"
  | .unterminatedString => "Unterminated string starting at"
  | .controlCharacter => "Invalid control character at"
  | .unknownEscape => "Invalid \\escape"
  | .unicodeEscape => "Invalid \\uXXXX escape"
  | .loneHalf => "Half a pair on its own in string starting at"
  | .byteOrderMark => "Unexpected UTF-8 BOM (decode using utf-8-sig)"

/-- A place in a text: the characters before it, and its line and column, both from one. -/
structure Spot where
  offset : Nat
  line : Nat
  column : Nat
  deriving DecidableEq, Repr, Inhabited

inductive ReadError where
  | malformed (cause : Cause) (spot : Spot)
  | digits (e : Number.TooManyDigits)
  deriving DecidableEq, Repr, Inhabited

def ReadError.message : ReadError → String
  | .malformed cause spot =>
    cause.text ++ ": line " ++ toString spot.line ++ " column " ++ toString spot.column ++ " (char "
      ++ toString spot.offset ++ ")"
  | .digits e => e.message

/-- A fault while reading; `left` counts the characters from its place on. -/
inductive Stop where
  | malformed (cause : Cause) (left : Nat)
  | digits (e : Number.TooManyDigits)
  deriving DecidableEq, Repr, Inhabited

/-- Space between the parts of a text. -/
def isSpace (c : Char) : Bool := c == ' ' || c == '\t' || c == '\n' || c == '\r'

def skipSpace (s : List Char) : List Char := s.dropWhile isSpace

/-! ## Strings -/

def hexValue? (c : Char) : Option Nat :=
  if '0' ≤ c && c ≤ '9' then some (c.toNat - 48)
  else if 'a' ≤ c && c ≤ 'f' then some (c.toNat - 87)
  else if 'A' ≤ c && c ≤ 'F' then some (c.toNat - 55)
  else none

def unit? (a b c d : Char) : Option Nat := do
  return (((← hexValue? a) * 16 + (← hexValue? b)) * 16 + (← hexValue? c)) * 16 + (← hexValue? d)

/-- The character that an escape of one letter stands for. -/
def escaped? : Char → Option Char
  | '"' => some '"'
  | '\\' => some '\\'
  | '/' => some '/'
  | 'b' => some '\x08'
  | 'f' => some '\x0c'
  | 'n' => some '\n'
  | 'r' => some '\r'
  | 't' => some '\t'
  | _ => none

/-- Puts a code unit in front of what was read. -/
def consUnit (n : Nat) (r : Except Stop (List Nat × List Char)) : Except Stop (List Nat × List Char) :=
  match r with
  | .ok (units, rest) => .ok (n :: units, rest)
  | .error e => .error e

/-- Reads a string after its opening quote, as code points, of which escapes may be halves of a pair. The opening quote had `opened` characters from it on. An escaped unit needs at least one more character after its digits. -/
def units (opened : Nat) : List Char → Except Stop (List Nat × List Char)
  | [] => .error (.malformed .unterminatedString opened)
  | '"' :: rest => .ok ([], rest)
  | ['\\'] => .error (.malformed .unterminatedString opened)
  | '\\' :: 'u' :: s =>
    match s with
    | a :: b :: c :: d :: e :: rest =>
      match unit? a b c d with
      | some n => consUnit n (units opened (e :: rest))
      | none => .error (.malformed .unicodeEscape (s.length + 1))
    | _ => .error (.malformed .unicodeEscape (s.length + 1))
  | '\\' :: c :: rest =>
    match escaped? c with
    | some d => consUnit d.toNat (units opened rest)
    | none => .error (.malformed .unknownEscape (rest.length + 2))
  | c :: rest =>
    if c.toNat < 32 then .error (.malformed .controlCharacter (rest.length + 1))
    else consUnit c.toNat (units opened rest)

/-- The first half of a pair of code units. -/
def isHighHalf (n : Nat) : Bool := 0xD800 ≤ n && n ≤ 0xDBFF

/-- The second half of a pair of code units. -/
def isLowHalf (n : Nat) : Bool := 0xDC00 ≤ n && n ≤ 0xDFFF

/-- The character of a code point, unless it is half a pair. -/
def char? (n : Nat) : Option Char := if isHighHalf n || isLowHalf n then none else some (Char.ofNat n)

/-- Joins the halves of pairs, unless one stands on its own. -/
def joinUnits? : List Nat → Option (List Char)
  | [] => some []
  | [n] => do return [← char? n]
  | h :: l :: rest =>
    if isHighHalf h && isLowHalf l then do
      return Char.ofNat (0x10000 + (h - 0xD800) * 0x400 + (l - 0xDC00)) :: (← joinUnits? rest)
    else do
      return (← char? h) :: (← joinUnits? (l :: rest))

/-- Reads a string after its opening quote. -/
def readString (s : List Char) : Except Stop (String × List Char) := do
  let (found, rest) ← units (s.length + 1) s
  match joinUnits? found with
  | some text => return (String.ofList text, rest)
  | none => throw (.malformed .loneHalf (s.length + 1))

/-! ## Numbers -/

/-- Splits off the decimal digits in front. -/
def spanDigits (s : List Char) : List Char × List Char := s.span Char.isDigit

/-- Reads the digits of a whole part: a zero, or digits that do not start with one. -/
def wholeDigits (s : List Char) : List Char × List Char :=
  match s with
  | '0' :: rest => (['0'], rest)
  | _ => spanDigits s

/-- Reads a point and the digits after it. -/
def fraction? (s : List Char) : Option (List Char × List Char) :=
  match s with
  | '.' :: rest =>
    match spanDigits rest with
    | ([], _) => none
    | found => some found
  | _ => none

/-- Reads the digits of an exponent with its sign. -/
def exponentDigits? (negative : Bool) (s : List Char) : Option (Int × List Char) :=
  match spanDigits s with
  | ([], _) => none
  | (digits, rest) =>
    let n := Number.ofDigits digits
    some (if negative then -(n : Int) else n, rest)

def exponent? (s : List Char) : Option (Int × List Char) :=
  match s with
  | c :: rest =>
    if c == 'e' || c == 'E' then
      match rest with
      | '-' :: digits => exponentDigits? true digits
      | '+' :: digits => exponentDigits? false digits
      | digits => exponentDigits? false digits
    else none
  | [] => none

/-- Reads a number of which the sign has been read; `left` counts the characters from its start on. -/
def unsigned (left : Nat) (negative : Bool) (s : List Char) : Except Stop (Json × List Char) := do
  match wholeDigits s with
  | ([], _) => throw (.malformed .expectingValue left)
  | (whole, rest) =>
    let found := fraction? rest
    let (decimals, rest) := found.getD ([], rest)
    let power := exponent? rest
    let (e, rest) := power.getD (0, rest)
    if found.isNone && power.isNone then
      match Number.readDigits whole with
      | .error e => throw (.digits e)
      | .ok n => return (.int (if negative then -(n : Int) else n), rest)
    else
      return (.float (.ofDecimal negative (Number.ofDigits (whole ++ decimals)) (e - decimals.length)), rest)

def number (s : List Char) : Except Stop (Json × List Char) :=
  match s with
  | '-' :: rest => unsigned s.length true rest
  | _ => unsigned s.length false s

/-! ## Values -/

/-- Words that stand for values. -/
def words : List (List Char × Json) :=
  [("null".toList, .null), ("true".toList, .bool true), ("false".toList, .bool false),
    ("NaN".toList, .float .nan), ("Infinity".toList, .float (.infinite false)),
    ("-Infinity".toList, .float (.infinite true))]

def word? (s : List Char) : Option (Json × List Char) :=
  words.findSome? fun (w, v) => if w.isPrefixOf s then some (v, s.drop w.length) else none

def atom (s : List Char) : Except Stop (Json × List Char) :=
  match word? s with
  | some found => .ok found
  | none => number s

mutual

def value : Nat → List Char → Except Stop (Json × List Char)
  | 0, s => .error (.malformed .expectingValue s.length)
  | fuel + 1, s =>
    match s with
    | '"' :: rest => do
      let (text, rest) ← readString rest
      return (.str text, rest)
    | '\x7b' :: rest =>
      match skipSpace rest with
      | '\x7d' :: rest => return (.obj [], rest)
      | rest => members fuel [] rest
    | '[' :: rest =>
      match skipSpace rest with
      | ']' :: rest => return (.arr [], rest)
      | rest => items fuel [] rest
    | _ => atom s

/-- Reads the items of an array from one on, after those already read, latest first. -/
def items : Nat → List Json → List Char → Except Stop (Json × List Char)
  | 0, _, s => .error (.malformed .expectingValue s.length)
  | fuel + 1, before, s => do
    let (item, rest) ← value fuel s
    match skipSpace rest with
    | ']' :: rest => return (.arr (item :: before).reverse, rest)
    | ',' :: rest => items fuel (item :: before) (skipSpace rest)
    | rest => throw (.malformed .expectingComma rest.length)

/-- Reads the members of an object from one on, after those already read. -/
def members : Nat → Keyed Json → List Char → Except Stop (Json × List Char)
  | 0, _, s => .error (.malformed .expectingName s.length)
  | fuel + 1, before, s =>
    match s with
    | '"' :: rest => do
      let (name, rest) ← readString rest
      match skipSpace rest with
      | ':' :: rest =>
        let (item, rest) ← value fuel (skipSpace rest)
        let after := Keyed.put name item before
        match skipSpace rest with
        | '\x7d' :: rest => return (.obj after, rest)
        | ',' :: rest => members fuel after (skipSpace rest)
        | rest => throw (.malformed .expectingComma rest.length)
      | rest => throw (.malformed .expectingColon rest.length)
    | _ => .error (.malformed .expectingName s.length)

end

/-- The place of the character before which there are `offset` characters. -/
def Spot.at (text : List Char) (offset : Nat) : Spot :=
  let earlier := text.take offset
  ⟨offset, earlier.count '\n' + 1, (earlier.reverse.takeWhile (· != '\n')).length + 1⟩

/-- The fault of a text, with its place. -/
def Stop.located (text : List Char) : Stop → ReadError
  | .malformed cause left => .malformed cause (Spot.at text (text.length - left))
  | .digits e => .digits e

/-- Reads a value with space around it and nothing else. -/
def document (text : List Char) : Except Stop Json := do
  match text with
  | '\uFEFF' :: _ => throw (.malformed .byteOrderMark text.length)
  | _ =>
    let (j, rest) ← value (2 * text.length + 2) (skipSpace text)
    match skipSpace rest with
    | [] => return j
    | rest => throw (.malformed .extraData rest.length)

def parse (text : List Char) : Except ReadError Json :=
  match document text with
  | .ok j => .ok j
  | .error e => .error (e.located text)

end ApiDoc.Json
