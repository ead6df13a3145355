/-!
# Decoding text files

Text files hold UTF-8. Decoding stops at the first bytes that are none, and says where they are and what is wrong with them. Of the line breaks a file may use, only line feeds remain after decoding.
-/

namespace ApiDoc.Text

inductive Utf8Reason where
  | invalidStart
  | invalidContinuation
  | unexpectedEnd
  deriving DecidableEq, Repr, Inhabited

def Utf8Reason.text : Utf8Reason → String
  | .invalidStart => "invalid start byte"
  | .invalidContinuation => "invalid continuation byte"
  | .unexpectedEnd => "unexpected end of data"

/-- Bytes that are no UTF-8: the first of them, where it is, how many they are, and what is wrong. -/
structure Utf8Error where
  byte : Nat
  position : Nat
  count : Nat
  reason : Utf8Reason
  deriving DecidableEq, Repr, Inhabited

def byteDigits (b : Nat) : String :=
  String.ofList [Nat.digitChar (b / 16), Nat.digitChar (b % 16)]

def Utf8Error.message (e : Utf8Error) : String :=
  let place := if e.count = 1 then
      "byte 0x" ++ byteDigits e.byte ++ " in position " ++ toString e.position
    else "bytes in position " ++ toString e.position ++ "-" ++ toString (e.position + e.count - 1)
  "'utf-8' codec can't decode " ++ place ++ ": " ++ e.reason.text

/-- A byte that continues a character. -/
def isContinuation (b : Nat) : Bool := 0x80 ≤ b && b ≤ 0xBF

/-- Whether the second byte of three fits the first: neither a longer form than needed nor half a pair. -/
def fitsThree (a b : Nat) : Bool := isContinuation b && !(a == 0xE0 && b < 0xA0) && !(a == 0xED && b ≥ 0xA0)

/-- Whether the second byte of four fits the first: neither a longer form than needed nor beyond the last code point. -/
def fitsFour (a b : Nat) : Bool := isContinuation b && !(a == 0xF0 && b < 0x90) && !(a == 0xF4 && b ≥ 0x90)

def consChar (code : Nat) (r : Except Utf8Error (List Char)) : Except Utf8Error (List Char) :=
  r.map (Char.ofNat code :: ·)

/-- Decodes bytes of which the first one has a position in the file. -/
def decodeFrom (position : Nat) : List Nat → Except Utf8Error (List Char)
  | [] => .ok []
  | a :: rest =>
    let fault (count : Nat) (reason : Utf8Reason) : Except Utf8Error (List Char) :=
      .error ⟨a, position, count, reason⟩
    if a < 0x80 then consChar a (decodeFrom (position + 1) rest)
    else if a < 0xC2 then fault 1 .invalidStart
    else if a < 0xE0 then
      match rest with
      | [] => fault 1 .unexpectedEnd
      | b :: rest =>
        if isContinuation b then consChar ((a - 0xC0) * 64 + (b - 0x80)) (decodeFrom (position + 2) rest)
        else fault 1 .invalidContinuation
    else if a < 0xF0 then
      match rest with
      | [] => fault 1 .unexpectedEnd
      | [b] => if fitsThree a b then fault 2 .unexpectedEnd else fault 1 .invalidContinuation
      | b :: c :: rest =>
        if !fitsThree a b then fault 1 .invalidContinuation
        else if !isContinuation c then fault 2 .invalidContinuation
        else consChar (((a - 0xE0) * 64 + (b - 0x80)) * 64 + (c - 0x80)) (decodeFrom (position + 3) rest)
    else if a < 0xF5 then
      match rest with
      | [] => fault 1 .unexpectedEnd
      | [b] => if fitsFour a b then fault 2 .unexpectedEnd else fault 1 .invalidContinuation
      | [b, c] =>
        if !fitsFour a b then fault 1 .invalidContinuation
        else if isContinuation c then fault 3 .unexpectedEnd else fault 2 .invalidContinuation
      | b :: c :: d :: rest =>
        if !fitsFour a b then fault 1 .invalidContinuation
        else if !isContinuation c then fault 2 .invalidContinuation
        else if !isContinuation d then fault 3 .invalidContinuation
        else
          consChar ((((a - 0xF0) * 64 + (b - 0x80)) * 64 + (c - 0x80)) * 64 + (d - 0x80))
            (decodeFrom (position + 4) rest)
    else fault 1 .invalidStart

/-- Makes every line break a line feed: a carriage return, alone or before a line feed, becomes one. -/
def unifyBreaks : List Char → List Char
  | [] => []
  | '\r' :: '\n' :: rest => '\n' :: unifyBreaks rest
  | '\r' :: rest => '\n' :: unifyBreaks rest
  | c :: rest => c :: unifyBreaks rest

/-- The text of a file. -/
def decode (bytes : List UInt8) : Except Utf8Error (List Char) :=
  (decodeFrom 0 (bytes.map UInt8.toNat)).map unifyBreaks

/-- How many bytes at the end of a chunk are the start of a character that goes on in the next chunk. -/
def openEnd (chunk : List UInt8) : Nat :=
  match decodeFrom 0 (chunk.map UInt8.toNat) with
  | .error e => if e.reason == .unexpectedEnd then e.count else 0
  | .ok _ => 0

/-- Decodes bytes chunk by chunk. Where bytes are wrong is counted from the start of a chunk, with the bytes that were left over from the chunk before. -/
def decodeChunks (size : Nat) : Nat → List UInt8 → List UInt8 → Except Utf8Error (List Char)
  | 0, _, _ => .ok []
  | fuel + 1, pending, bytes =>
    let chunk := pending ++ bytes.take size
    let rest := bytes.drop size
    if bytes.isEmpty then decodeFrom 0 (pending.map UInt8.toNat)
    else do
      let kept := openEnd chunk
      let text ← decodeFrom 0 ((chunk.take (chunk.length - kept)).map UInt8.toNat)
      return text ++ (← decodeChunks size fuel (chunk.drop (chunk.length - kept)) rest)

/-- The text of a file that is read chunk by chunk. -/
def decodeInChunks (bytes : List UInt8) : Except Utf8Error (List Char) :=
  (decodeChunks 8192 (bytes.length + 2) [] bytes).map unifyBreaks

end ApiDoc.Text
