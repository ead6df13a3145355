import ApiDoc.Yaml.Block

/-!
# Tokens of a document

A document is cut into tokens. What the layout of its lines says is made explicit: a token opens each mapping and each list that is laid out by indentation, another one closes it, and a token stands in front of each key.

Whether a word is a key is known only at the colon after it. Until then it is a candidate, with its place among the tokens, where the tokens for the key are put in later.

Where a text cannot be cut any further, a token tells why. It takes the place of the first candidate, since the tokens from there on are not settled.

* `tokens` cuts a text.
-/

namespace ApiDoc.Yaml

inductive Token where
  | openMap
  | openList
  | close
  | key
  | value
  | entry
  | flowOpenList
  | flowCloseList
  | flowOpenMap
  | flowCloseMap
  | comma
  /-- A word or a quoted text. -/
  | scalar (isPlain : Bool) (text : List Char)
  | anchor (name : List Char)
  | reference (name : List Char)
  | tag (t : Tag)
  | directive (d : Directive)
  | documentStart
  | documentEnd
  /-- Nothing follows. -/
  | finish
  /-- What follows cannot be cut. -/
  | fault (e : Error)
  deriving DecidableEq, Repr, Inhabited

/-- A token that turns out to start a key if a colon follows. -/
structure Candidate where
  /-- How many tokens stand before it. -/
  position : Nat
  /-- Whether it can be nothing but a key. -/
  required : Bool
  place : Place
  deriving Repr, Inhabited

/-- The state of cutting a text. -/
structure Cutter where
  place : Place
  rest : List Char
  /-- The tokens so far, the last one first. -/
  out : List Token
  /-- The columns of the open blocks, the innermost first. -/
  indents : List Nat
  /-- How many brackets are open. -/
  depth : Nat
  /-- Whether a key may start here. -/
  keyAllowed : Bool
  /-- The candidates, by how many brackets are open. -/
  candidates : List (Nat × Candidate)
  deriving Repr, Inhabited

namespace Cutter

/-- The column of the innermost block, below zero when there is none. -/
def indent (s : Cutter) : Int :=
  match s.indents with
  | [] => -1
  | column :: _ => column

def skip (s : Cutter) : Cutter :=
  match s.rest with
  | [] => s
  | c :: cs => { s with place := s.place.after c, rest := cs }

def emit (s : Cutter) (t : Token) : Cutter := { s with out := t :: s.out }

/-- Puts tokens in after the first `position` ones, the last one first. -/
def insert (s : Cutter) (position : Nat) (ts : List Token) : Cutter :=
  let after := s.out.length - position
  { s with out := s.out.take after ++ ts ++ s.out.drop after }

/-- Opens a block at a column that is further in than the innermost block. -/
def enter (s : Cutter) (column : Nat) : Option Cutter :=
  if s.indent < column then some { s with indents := column :: s.indents } else none

/-- Closes the blocks that are further in than a column. -/
def closeBlocks (column : Int) : List Nat → List Token → List Nat × List Token
  | [], out => ([], out)
  | indent :: rest, out =>
    if (indent : Int) > column then closeBlocks column rest (.close :: out) else (indent :: rest, out)

/-- Closes the blocks that are further in than a column. Between brackets the layout has no meaning. -/
def unwind (s : Cutter) (column : Int) : Cutter :=
  if s.depth > 0 then s
  else
    let (indents, out) := closeBlocks column s.indents s.out
    { s with indents, out }

/-- Gives up the candidates that are too far behind: on a line before, or more than 1024 characters back. -/
def dropStale (s : Cutter) : Except Error Cutter :=
  let isStale (c : Candidate) : Bool := c.place.line != s.place.line || s.place.index - c.place.index > 1024
  if s.candidates.any fun c => isStale c.2 && c.2.required then .error .malformed
  else .ok { s with candidates := s.candidates.filter fun c => !isStale c.2 }

/-- Gives up the candidate of the innermost brackets. -/
def dropCandidate (s : Cutter) : Except Error Cutter :=
  match s.candidates.lookup s.depth with
  | none => .ok s
  | some c =>
    if c.required then .error .malformed
    else .ok { s with candidates := s.candidates.filter fun c => c.1 != s.depth }

/-- Makes the next token a candidate if a key may start here. -/
def saveCandidate (s : Cutter) : Except Error Cutter := do
  if !s.keyAllowed then return s
  let required := s.depth == 0 && s.indent == s.place.column
  let s ← s.dropCandidate
  return { s with candidates := (s.depth, ⟨s.out.length, required, s.place⟩) :: s.candidates }

/-- Goes over blanks, comments and line breaks. -/
def skipBlanks (inComment : Bool) (place : Place) (keyAllowed inFlow : Bool) : List Char → Place × Bool × List Char
  | [] => (place, keyAllowed, [])
  | c :: cs =>
    if isBreak c then skipBlanks false (place.after c) (keyAllowed || !inFlow) inFlow cs
    else if inComment || c == ' ' then skipBlanks inComment (place.after c) keyAllowed inFlow cs
    else if c == '#' then skipBlanks true (place.after c) keyAllowed inFlow cs
    else (place, keyAllowed, c :: cs)

/-- Goes to the next token. -/
def advance (s : Cutter) : Cutter :=
  let (place, keyAllowed, rest) := skipBlanks false s.place s.keyAllowed (s.depth > 0) s.rest
  { s with place, keyAllowed, rest }

def openFlow (s : Cutter) (t : Token) : Except Error Cutter := do
  let s ← s.saveCandidate
  return { s.skip.emit t with depth := s.depth + 1, keyAllowed := true }

def closeFlow (s : Cutter) (t : Token) : Except Error Cutter := do
  if s.depth == 0 then throw .malformed
  let s ← s.dropCandidate
  return { s.skip.emit t with depth := s.depth - 1, keyAllowed := false }

def comma (s : Cutter) : Except Error Cutter := do
  let s ← s.dropCandidate
  return { s.skip.emit .comma with keyAllowed := true }

/-- Opens a block here if it is further in. -/
def openBlock (s : Cutter) (t : Token) : Except Error Cutter :=
  if s.depth > 0 then .ok s
  else if !s.keyAllowed then .error .malformed
  else match s.enter s.place.column with
    | some s => .ok (s.emit t)
    | none => .ok s

/-- A dash in front of an item. -/
def entry (s : Cutter) : Except Error Cutter := do
  let s ← s.openBlock .openList
  let s ← s.dropCandidate
  return { s.skip.emit .entry with keyAllowed := true }

/-- A question mark in front of a key. -/
def key (s : Cutter) : Except Error Cutter := do
  let s ← s.openBlock .openMap
  let s ← s.dropCandidate
  return { s.skip.emit .key with keyAllowed := s.depth == 0 }

/-- A colon. A candidate before it is a key, in a block that it opens if it stands further in. -/
def value (s : Cutter) : Except Error Cutter := do
  match s.candidates.lookup s.depth with
  | some c =>
    let s := { s with candidates := s.candidates.filter fun c => c.1 != s.depth }
    let s :=
      match if s.depth == 0 then s.enter c.place.column else none with
      | some inner => inner.insert c.position [.key, .openMap]
      | none => s.insert c.position [.key]
    return { s.skip.emit .value with keyAllowed := false }
  | none =>
    let s ← s.openBlock .openMap
    let s ← s.dropCandidate
    return { s.skip.emit .value with keyAllowed := s.depth == 0 }

def mark (s : Cutter) (t : Token) : Except Error Cutter := do
  let s ← (s.unwind (-1)).dropCandidate
  return { s.skip.skip.skip.emit t with keyAllowed := false }

/-- Goes on after a piece of text that was read from here. -/
def moveTo (s : Cutter) (rest : List Char) : Cutter :=
  { s with place := (s.rest.take (s.rest.length - rest.length)).foldl Place.after s.place, rest }

/-- A name that is given to a node, or that stands for one. -/
def name (s : Cutter) (token : List Char → Token) : Except Error Cutter := do
  let s ← s.saveCandidate
  let some (name, rest) := readAnchor s.skip.rest | throw .malformed
  return { (s.skip.moveTo rest).emit (token name) with keyAllowed := false }

def tag (s : Cutter) : Except Error Cutter := do
  let s ← s.saveCandidate
  let some (t, rest) := readTag s.skip.rest | throw .malformed
  return { (s.skip.moveTo rest).emit (.tag t) with keyAllowed := false }

/-- A directive, which ends all blocks. -/
def directive (s : Cutter) : Except Error Cutter := do
  let s ← (s.unwind (-1)).dropCandidate
  let some (d, rest) := readDirective s.skip.rest | throw .malformed
  return { (s.skip.moveTo rest).skip.emit (.directive d) with keyAllowed := false }

/-- Text that is laid out by indentation. -/
def block (s : Cutter) (folded : Bool) : Except Error Cutter := do
  let s ← s.dropCandidate
  let some piece := readBlock folded s.indent s.skip.place s.skip.rest | throw .malformed
  return { s.emit (.scalar false piece.text) with place := piece.place, rest := piece.rest, keyAllowed := true }

def quoted (s : Cutter) (double : Bool) : Except Error Cutter := do
  let s ← s.saveCandidate
  let piece ← readQuoted double .plain [] .nothing s.skip.place s.skip.rest
  return { s.emit (.scalar false piece.text) with place := piece.place, rest := piece.rest, keyAllowed := false }

def word (s : Cutter) : Except Error Cutter := do
  let s ← s.saveCandidate
  let piece := readPlain (s.depth > 0) (s.indent + 1) [] .nothing s.place s.rest
  return { s.emit (.scalar true piece.text) with
    place := piece.place, rest := piece.rest, keyAllowed := piece.brokeLine }

def startsWord (inFlow : Bool) (c : Char) (rest : List Char) : Bool :=
  !(c == '\t' || "-?:,[]\x7b\x7d#&*!|>'\"%@\x60".toList.contains c)
    || !atBlank rest && (c == '-' || !inFlow && (c == '?' || c == ':'))

/-- Cuts the token that starts with a character. -/
def token (s : Cutter) (c : Char) (rest : List Char) : Except Error Cutter :=
  let inFlow := s.depth > 0
  let atStart := s.place.column == 0
  if c == '%' && atStart then s.directive
  else if atStart && isMark '-' (c :: rest) then s.mark .documentStart
  else if atStart && isMark '.' (c :: rest) then s.mark .documentEnd
  else if c == '[' then s.openFlow .flowOpenList
  else if c == '\x7b' then s.openFlow .flowOpenMap
  else if c == ']' then s.closeFlow .flowCloseList
  else if c == '\x7d' then s.closeFlow .flowCloseMap
  else if c == ',' then s.comma
  else if c == '-' && atBlank rest then s.entry
  else if c == '?' && (inFlow || atBlank rest) then s.key
  else if c == ':' && (inFlow || atBlank rest) then s.value
  else if c == '*' then s.name .reference
  else if c == '&' then s.name .anchor
  else if c == '!' then s.tag
  else if c == '|' && !inFlow then s.block false
  else if c == '>' && !inFlow then s.block true
  else if c == '\'' then s.quoted false
  else if c == '"' then s.quoted true
  else if startsWord inFlow c rest then s.word
  else .error .malformed

/-- Goes to the next token, and closes the blocks that end before it. -/
def settle (s : Cutter) : Except Error Cutter := do
  let s ← s.advance.dropStale
  return s.unwind s.place.column

/-- Ends all blocks at the end of a text. -/
def close (s : Cutter) : Except Error Cutter := do
  let s ← (s.unwind (-1)).dropCandidate
  return s.emit .finish

/-- The tokens of a text that cannot be cut any further. -/
def broken (s : Cutter) (e : Error) : List Token :=
  let settled := s.candidates.foldl (fun n c => min n c.2.position) s.out.length
  s.out.reverse.take settled ++ [.fault e]

/-- Cuts the rest of a text. Each step takes a character at least, so that the length of the text bounds their number. -/
def run : Nat → Cutter → List Token
  | 0, s => s.broken .malformed
  | fuel + 1, s =>
    match s.settle with
    | .error e => s.broken e
    | .ok s =>
      match s.rest with
      | [] =>
        match s.close with
        | .error e => s.broken e
        | .ok s => s.out.reverse
      | c :: rest =>
        match s.token c rest with
        | .error e => s.broken e
        | .ok s => run fuel s

end Cutter

def isAllowed (c : Char) : Bool :=
  c == '\t' || c == '\n' || c == '\r' || c == '\x85' || (' ' ≤ c && c ≤ '~')
    || (0xa0 ≤ c.toNat && c.toNat ≠ 0xfffe && c.toNat ≠ 0xffff)

/-- Leaves out a mark of the byte order at the start of a text. -/
def withoutOrderMark : List Char → List Char
  | '\ufeff' :: cs => cs
  | cs => cs

def tokens (text : List Char) : List Token :=
  if !text.all isAllowed then [.fault .malformed]
  else Cutter.run (text.length + 1) ⟨⟨0, 0, 0⟩, withoutOrderMark text, [], [], 0, true, []⟩

end ApiDoc.Yaml
