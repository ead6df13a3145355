import ApiDoc.Yaml.Basic

/-!
# Text that runs over lines

Plain words and quoted text of a document may run over several lines. What stands between two words is a gap: blanks within a line stay as they are, a single line break becomes a blank, and of more line breaks all but the first stay.

* `readPlain` reads a plain word from its first character on.
* `readQuoted` reads quoted text after its opening quote.
-/

namespace ApiDoc.Yaml

def isBreak (c : Char) : Bool := c == '\n' || c == '\x85' || c == '\u2028' || c == '\u2029'

/-- The line break that a character is read as. -/
def breakOf (c : Char) : Char := if c == '\x85' then '\n' else c

/-- Whether a text is at its end or goes on with a blank or a line break. -/
def atBlank : List Char → Bool
  | [] => true
  | c :: _ => c == ' ' || c == '\t' || isBreak c

/-- Whether a line starts with the mark that separates documents, given by the character it is made of. -/
def isMark (mark : Char) : List Char → Bool
  | a :: b :: c :: rest => a == mark && b == mark && c == mark && atBlank rest
  | _ => false

/-- Whether a line starts with one of the marks that separate documents. -/
def isSeparator (cs : List Char) : Bool := isMark '-' cs || isMark '.' cs

/-- A place in a text: its line, its column, and how many characters stand before it. -/
structure Place where
  line : Nat
  column : Nat
  index : Nat
  deriving DecidableEq, Repr, Inhabited

def Place.after (p : Place) (c : Char) : Place :=
  if isBreak c then ⟨p.line + 1, 0, p.index + 1⟩
  else if c == '\ufeff' then ⟨p.line, p.column, p.index + 1⟩
  else ⟨p.line, p.column + 1, p.index + 1⟩

/-- What stands between two words of a text. -/
inductive Gap where
  | nothing
  | blanks (cs : List Char)
  /-- Line breaks: the first, and those after it. -/
  | breaks (first : Char) (more : List Char)
  /-- Line breaks of which the first was escaped. -/
  | joined (more : List Char)
  deriving Repr, Inhabited

namespace Gap

def text : Gap → List Char
  | .nothing => []
  | .blanks cs => cs
  | .breaks first more => (if first != '\n' then [first] else if more.isEmpty then [' '] else []) ++ more
  | .joined more => more

def blank (c : Char) : Gap → Gap
  | .nothing => .blanks [c]
  | .blanks cs => .blanks (cs ++ [c])
  | g => g

/-- The gap with one more line break. Blanks before it are lost. -/
def lineBreak (c : Char) : Gap → Gap
  | .nothing | .blanks _ => .breaks (breakOf c) []
  | .breaks first more => .breaks first (more ++ [breakOf c])
  | .joined more => .joined (more ++ [breakOf c])

def isNothing : Gap → Bool
  | .nothing => true
  | _ => false

def hasBreak : Gap → Bool
  | .breaks .. | .joined _ => true
  | _ => false

end Gap

/-- A text read from a document: its characters, the place after it with the rest, and whether a line break was passed at its end. -/
structure Piece where
  text : List Char
  place : Place
  rest : List Char
  brokeLine : Bool
  deriving Repr, Inhabited

/-- Whether a character ends a plain word, where `inFlow` is set between brackets. -/
def endsPlain (inFlow : Bool) (c : Char) (rest : List Char) : Bool :=
  c == '\t' || (inFlow && [',', '?', '[', ']', '\x7b', '\x7d'].contains c)
    || (c == ':' && (atBlank rest
      || inFlow && rest.head?.any fun n => [',', '[', ']', '\x7b', '\x7d'].contains n))

/-- Reads a plain word. Its lines after the first stand at column `indent` or more, unless it stands between brackets. -/
def readPlain (inFlow : Bool) (indent : Int) (done : List Char) (gap : Gap) (place : Place) : List Char → Piece
  | [] => ⟨done, place, [], gap.hasBreak⟩
  | c :: cs =>
    let stop : Piece := ⟨done, place, c :: cs, gap.hasBreak⟩
    if c == ' ' then readPlain inFlow indent done (gap.blank c) (place.after c) cs
    else if isBreak c then
      if isSeparator cs then ⟨done, place.after c, cs, true⟩
      else readPlain inFlow indent done (gap.lineBreak c) (place.after c) cs
    else if endsPlain inFlow c cs then stop
    else if !gap.isNothing && (c == '#' || !inFlow && (place.column : Int) < indent) then stop
    else readPlain inFlow indent (done ++ gap.text ++ [c]) .nothing (place.after c) cs

/-- The character that an escape of one letter stands for. -/
def escapeOf (c : Char) : Option Char :=
  match c with
  | '0' => some '\x00'
  | 'a' => some '\x07'
  | 'b' => some '\x08'
  | 't' | '\t' => some '\t'
  | 'n' => some '\n'
  | 'v' => some '\x0b'
  | 'f' => some '\x0c'
  | 'r' => some '\r'
  | 'e' => some '\x1b'
  | ' ' | '"' | '\\' | '/' => some c
  | 'N' => some '\x85'
  | '_' => some '\xa0'
  | 'L' => some '\u2028'
  | 'P' => some '\u2029'
  | _ => none

/-- How many digits follow an escape by number. -/
def escapeDigits (c : Char) : Option Nat :=
  match c with
  | 'x' => some 2
  | 'u' => some 4
  | 'U' => some 8
  | _ => none

def hexDigit? (c : Char) : Option Nat := if c.toNat < 128 then Number.digitIn? 16 c else none

/-- Where the reader of quoted text stands. -/
inductive QuotedMode where
  | plain
  /-- After an apostrophe that ends the text unless another one follows. -/
  | apostrophe
  /-- After a backslash. -/
  | escape
  /-- Among the digits of an escape: how many are missing, and the number so far. -/
  | digits (missing value : Nat)
  deriving Repr, Inhabited

/-- Reads quoted text after its opening quote, up to the closing one. -/
def readQuoted (double : Bool) (mode : QuotedMode) (done : List Char) (gap : Gap) (place : Place) :
    List Char → Except Error Piece
  | [] =>
    match mode with
    | .apostrophe => .ok ⟨done, place, [], false⟩
    | _ => .error .malformed
  | c :: cs =>
    let next := place.after c
    match mode with
    | .apostrophe =>
      if c == '\'' then readQuoted double .plain (done ++ [c]) .nothing next cs
      else .ok ⟨done, place, c :: cs, false⟩
    | .escape =>
      match escapeOf c, escapeDigits c with
      | some e, _ => readQuoted double .plain (done ++ [e]) .nothing next cs
      | none, some n => readQuoted double (.digits n 0) done .nothing next cs
      | none, none =>
        if !isBreak c || isSeparator cs then .error .malformed
        else readQuoted double .plain done (.joined []) next cs
    | .digits missing value =>
      match hexDigit? c with
      | none => .error .malformed
      | some d =>
        let value := 16 * value + d
        if missing > 1 then readQuoted double (.digits (missing - 1) value) done .nothing next cs
        else if value > 0x10ffff then .error (.character value)
        else readQuoted double .plain (done ++ [Char.ofNat value]) .nothing next cs
    | .plain =>
      if c == ' ' || c == '\t' then readQuoted double .plain done (gap.blank c) next cs
      else if isBreak c then
        if isSeparator cs then .error .malformed
        else readQuoted double .plain done (gap.lineBreak c) next cs
      else if double && c == '"' then .ok ⟨done ++ gap.text, next, cs, false⟩
      else if double && c == '\\' then readQuoted double .escape (done ++ gap.text) .nothing next cs
      else if !double && c == '\'' then readQuoted double .apostrophe (done ++ gap.text) .nothing next cs
      else readQuoted double .plain (done ++ gap.text ++ [c]) .nothing next cs

end ApiDoc.Yaml
