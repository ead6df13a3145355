import ApiDoc.Pattern.Basic
import ApiDoc.Pattern.Error

/-!
# Reading written patterns: tokens and state

A written pattern is a list of tokens, where a backslash and the character after it make one token. Reading keeps the tokens left, the place of the next one, and what is known of the groups so far.
-/

namespace ApiDoc.Pattern

/-- One or two characters that are read together. -/
inductive Token where
  | plain (c : Char)
  | escaped (c : Char)
  deriving DecidableEq, Repr, Inhabited

def Token.text : Token → List Char
  | .plain c => [c]
  | .escaped c => ['\\', c]

def Token.width (t : Token) : Nat := t.text.length

/-- The tokens of a pattern; none when it ends in a backslash that escapes nothing. -/
def tokens? : List Char → Option (List Token)
  | [] => some []
  | '\\' :: c :: cs => (tokens? cs).map (.escaped c :: ·)
  | ['\\'] => none
  | c :: cs => (tokens? cs).map (.plain c :: ·)

def writtenText (ts : List Token) : List Char := ts.flatMap Token.text

/-- Whether a token is a plain character that passes a test. -/
def Token.isPlain (test : Char → Bool) : Token → Bool
  | .plain c => test c
  | .escaped _ => false

/-- Options that a group can switch on and off. -/
structure Flags where
  ignoreCase : Bool
  multiline : Bool
  dotAll : Bool
  verbose : Bool
  ascii : Bool
  deriving DecidableEq, Repr, Inhabited

def Flags.start : Flags := ⟨false, false, false, false, false⟩

def Flags.mode (f : Flags) : SetMode := ⟨f.ignoreCase, f.ascii⟩

/-- What reading a pattern keeps. -/
structure Reading where
  /-- The tokens left. -/
  rest : List Token
  /-- The place of the next token. -/
  position : Nat
  /-- The widths of the groups opened so far, none while a group is open. -/
  groups : List (Option (Nat × Nat))
  /-- The named groups. -/
  names : List (String × Nat)
  /-- Inside a condition on the text behind: the number of groups opened before it. -/
  behindFrom : Option Nat
  /-- The groups that conditions ask for, each with its place. -/
  conditions : List (Nat × Nat)
  /-- A fault that shows only once the whole pattern has been read. -/
  late : Option Error
  deriving Repr, Inhabited

/-- Reading with the possibility of a fault. The fault has no line and column yet. -/
abbrev Reader := StateT Reading (Except Error)

namespace Reader

/-- Stops with a fault at a place some characters before the next token. -/
def fail {α : Type} (what : Fault) (offset : Nat) : Reader α := do
  throw (.fault what ((← get).position - offset) none)

/-- The next token, which stays. -/
def peek : Reader (Option Token) := do return (← get).rest.head?

/-- Takes a number of tokens. -/
def takeMany (n : Nat) : Reader (List Token) := do
  let s ← get
  let taken := s.rest.take n
  set { s with rest := s.rest.drop n, position := s.position + (writtenText taken).length }
  return taken

def takeOne : Reader (Option Token) := do return (← takeMany 1).head?

/-- Takes the next token if it is a given plain character. -/
def accept (c : Char) : Reader Bool := do
  if (← peek) == some (.plain c) then
    let _ ← takeOne
    return true
  else return false

/-- Takes plain characters that pass a test, at most `n` of them. -/
def takeWhile (n : Nat) (test : Char → Bool) : Reader (List Char) := do
  let found := ((← get).rest.take n).takeWhile (Token.isPlain test)
  return writtenText (← takeMany found.length)

/-- Takes all plain characters at the front that pass a test. -/
def takeAll (test : Char → Bool) : Reader (List Char) := do takeWhile (← get).rest.length test

/-- Takes a name that ends before a given character, and that character. -/
def takeUntil (stop : Char) (what : String) : Reader (List Char) := do
  let found := (← get).rest.takeWhile (· != .plain stop)
  let name := writtenText (← takeMany found.length)
  if ← accept stop then
    if name.isEmpty then fail (.missingName what) 1 else return name
  else if name.isEmpty then fail (.missingName what) 0
  else fail (.unterminatedName (String.ofList [stop])) name.length

/-- Opens a group, which takes the next number. -/
def openGroup (name : Option (List Char)) : Reader Nat := do
  let s ← get
  let index := s.groups.length + 1
  match name with
  | none => set { s with groups := s.groups ++ [none] }
  | some n =>
    let key := String.ofList n
    match s.names.lookup key with
    | some first => fail (.groupNameTwice key index first) (n.length + 1)
    | none => set { s with groups := s.groups ++ [none], names := s.names ++ [(key, index)] }
  return index

/-- The widths of the closed groups; open ones count as empty. -/
def Reading.widths (s : Reading) : List (Nat × Nat) := s.groups.map fun g => g.getD (0, 0)

/-- Closes a group with what it encloses. -/
def closeGroup (index : Nat) (r : Regex) : Reader Unit :=
  modify fun s => { s with groups := s.groups.set (index - 1) (some (r.width (Reading.widths s))) }

def isClosed (index : Nat) : Reader Bool := do
  return ((← get).groups.getD (index - 1) none).isSome

/-- Inside a condition on the text behind, only groups closed before it may be referred to. -/
def checkBehind (index : Nat) : Reader Unit := do
  match (← get).behindFrom with
  | none => return
  | some opened =>
    if !(← isClosed index) then fail .openGroupReference 0
    if index > opened then fail .sameLookBehindReference 0

end Reader

end ApiDoc.Pattern
