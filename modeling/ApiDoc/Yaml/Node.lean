import ApiDoc.Yaml.Scalar
import ApiDoc.Yaml.Token

/-!
# Nodes of a document

The tree that the tokens of a document describe: scalars as they are written, lists and mappings, each with what it is said to be. Where an alias stands, the node of that name stands in the tree once more. A text holds one document at most.

* `composeDocument` gives the tree of a text.
-/

namespace ApiDoc.Yaml

inductive Node where
  | scalar (kind : Kind) (text : List Char)
  | list (kind : Kind) (items : List Node)
  | map (kind : Kind) (entries : List (Node × Node))
  deriving Inhabited

/-- The node for nothing. -/
def Node.nothing : Node := .scalar .null []

/-- The state of putting nodes together. -/
structure Composer where
  /-- The tokens that are left. -/
  tokens : List Token
  /-- The nodes that have names. -/
  named : List (List Char × Node)
  /-- The names that are given away, whether or not their nodes are complete. -/
  taken : List (List Char)
  /-- The short forms of tags. -/
  handles : List (List Char × List Char)
  deriving Inhabited

abbrev Composing := StateT Composer (Except Error)

/-- The short forms that need no directive. -/
def knownHandles : List (List Char × List Char) := [(['!'], ['!']), (['!', '!'], knownTag.toList)]

/-- The next token. Where the text cannot be cut any further, putting together ends. -/
def peek : Composing Token := do
  match (← get).tokens with
  | .fault e :: _ => throw e
  | t :: _ => return t
  | [] => return .finish

def skipToken : Composing Unit := modify fun c => { c with tokens := c.tokens.drop 1 }

/-- Goes over a token if it is the next one, and tells whether it was. -/
def accept (t : Token) : Composing Bool := do
  if (← peek) == t then
    skipToken
    return true
  else return false

/-- Takes a token that has to be the next one. -/
def expect (t : Token) : Composing Unit := do
  if !(← accept t) then throw .malformed

def nextIs (among : List Token) : Composing Bool := do return among.contains (← peek)

/-! ## Properties -/

structure Properties where
  anchor : Option (List Char)
  tag : Option (List Char)
  deriving Repr, Inhabited

/-- The full name of a tag. -/
def fullTag (t : Tag) : Composing (List Char) := do
  match t.handle with
  | none => return t.suffix
  | some handle =>
    match (← get).handles.lookup handle with
    | some long => return long ++ t.suffix
    | none => throw .malformed

def takeAnchor : Composing (Option (List Char)) := do
  match ← peek with
  | .anchor name =>
    skipToken
    return some name
  | _ => return none

def takeTag : Composing (Option Tag) := do
  match ← peek with
  | .tag t =>
    skipToken
    return some t
  | _ => return none

/-- Reads the properties of a node, in any order. -/
def properties : Composing Properties := do
  let before ← takeAnchor
  let tag ← takeTag
  let anchor ← if before.isNone && tag.isSome then takeAnchor else pure before
  match tag with
  | none => return ⟨anchor, none⟩
  | some t => return ⟨anchor, some (← fullTag t)⟩

namespace Properties

/-- Whether nothing is said about what the node is. The mark alone says nothing. -/
def isOpen (p : Properties) : Bool := p.tag.isNone || p.tag == some ['!']

/-- What a list or a mapping is said to be. -/
def kindOr (p : Properties) (usual : Kind) : Kind :=
  if p.isOpen then usual else Kind.ofTag (String.ofList (p.tag.getD []))

/-- What a scalar is said to be. After the mark alone, quoted text counts as a plain word. -/
def kindOfText (p : Properties) (isPlain : Bool) (text : List Char) : Kind :=
  if p.isOpen then if isPlain || p.tag.isSome then Kind.ofWord text else .str
  else p.kindOr .str

end Properties

/-- Gives a name away. No name is given twice. -/
def takeName (name : Option (List Char)) : Composing Unit := do
  let some name := name | return
  if (← get).taken.contains name then throw .malformed
  modify fun c => { c with taken := name :: c.taken }

def keep (name : Option (List Char)) (n : Node) : Composing Node := do
  if let some name := name then modify fun c => { c with named := (name, n) :: c.named }
  return n

/-! ## Nodes -/

mutual

/-- Reads a node. A list may stand without a token that opens it where `bare` is set. -/
def node (bare block : Bool) : Nat → Composing Node
  | 0 => throw .malformed
  | fuel + 1 => do
    if let .reference name ← peek then
      skipToken
      match (← get).named.lookup name with
      | some n => return n
      | none => throw .malformed
    let p ← properties
    takeName p.anchor
    keep p.anchor (← content bare block p fuel)

/-- Reads a node after its properties. -/
def content (bare block : Bool) (p : Properties) : Nat → Composing Node
  | 0 => throw .malformed
  | fuel + 1 => do
    match ← peek with
    | .entry => if bare then return .list (p.kindOr .list) (← bareItems fuel []) else empty p
    | .scalar isPlain text =>
      skipToken
      return .scalar (p.kindOfText isPlain text) text
    | .flowOpenList =>
      skipToken
      return .list (p.kindOr .list) (← flowItems fuel true [])
    | .flowOpenMap =>
      skipToken
      return .map (p.kindOr .map) (← flowEntries fuel true [])
    | .openList =>
      if !block then return ← empty p
      skipToken
      return .list (p.kindOr .list) (← blockItems fuel [])
    | .openMap =>
      if !block then return ← empty p
      skipToken
      return .map (p.kindOr .map) (← blockEntries fuel [])
    | _ => empty p
where
  /-- A node of which there are only properties. -/
  empty (p : Properties) : Composing Node := do
    if p.anchor.isNone && p.tag.isNone then throw .malformed
    return .scalar (p.kindOfText true []) []

/-- Reads a node, or nothing if one of some tokens follows. -/
def optional (bare block : Bool) (ends : List Token) : Nat → Composing Node
  | 0 => throw .malformed
  | fuel + 1 => do if ← nextIs ends then return .nothing else node bare block fuel

/-- Reads the node after a colon, or nothing if there is no colon. -/
def afterColon (bare block : Bool) (ends : List Token) : Nat → Composing Node
  | 0 => throw .malformed
  | fuel + 1 => do if ← accept .value then optional bare block ends fuel else return .nothing

/-- Reads the items of a list in a block of its own. -/
def blockItems : Nat → List Node → Composing (List Node)
  | 0, _ => throw .malformed
  | fuel + 1, done => do
    if ← accept .entry then
      let item ← optional false true [.entry, .close] fuel
      blockItems fuel (done ++ [item])
    else
      expect .close
      return done

/-- Reads the items of a list that stands at the column of the key before it. -/
def bareItems : Nat → List Node → Composing (List Node)
  | 0, _ => throw .malformed
  | fuel + 1, done => do
    if ← accept .entry then
      let item ← optional false true [.entry, .key, .value, .close] fuel
      bareItems fuel (done ++ [item])
    else return done

def blockEntries : Nat → List (Node × Node) → Composing (List (Node × Node))
  | 0, _ => throw .malformed
  | fuel + 1, done => do
    if ← accept .key then
      let key ← optional true true [.key, .value, .close] fuel
      let value ← afterColon true true [.key, .value, .close] fuel
      blockEntries fuel (done ++ [(key, value)])
    else
      expect .close
      return done

/-- Reads the items of a list between brackets. A key there makes a mapping of one entry. -/
def flowItems : Nat → Bool → List Node → Composing (List Node)
  | 0, _, _ => throw .malformed
  | fuel + 1, isFirst, done => do
    if ← accept .flowCloseList then return done
    if !isFirst then expect .comma
    if ← accept .flowCloseList then return done
    if ← accept .key then
      let key ← optional false false [.value, .comma, .flowCloseList] fuel
      let value ← afterColon false false [.comma, .flowCloseList] fuel
      flowItems fuel false (done ++ [.map .map [(key, value)]])
    else
      let item ← node false false fuel
      flowItems fuel false (done ++ [item])

/-- Reads the entries of a mapping between braces. A node without a colon is a key without a value. -/
def flowEntries : Nat → Bool → List (Node × Node) → Composing (List (Node × Node))
  | 0, _, _ => throw .malformed
  | fuel + 1, isFirst, done => do
    if ← accept .flowCloseMap then return done
    if !isFirst then expect .comma
    if ← accept .flowCloseMap then return done
    if ← accept .key then
      let key ← optional false false [.value, .comma, .flowCloseMap] fuel
      let value ← afterColon false false [.comma, .flowCloseMap] fuel
      flowEntries fuel false (done ++ [(key, value)])
    else
      let key ← node false false fuel
      flowEntries fuel false (done ++ [(key, .nothing)])

end

/-! ## Documents -/

/-- Reads the directives of a document: each one at most once, and no version but the first. -/
def directives : Nat → Bool → List (List Char × List Char) → Composing (List (List Char × List Char))
  | 0, _, _ => throw .malformed
  | fuel + 1, hasVersion, handles => do
    let .directive d ← peek | return handles
    skipToken
    match d with
    | .version major => if hasVersion || major != 1 then throw .malformed else directives fuel true handles
    | .tag handle long =>
      if handles.any fun h => h.1 == handle then throw .malformed
      else directives fuel hasVersion (handles ++ [(handle, long)])
    | .other => directives fuel hasVersion handles

/-- Goes over the marks at the end of a document, after which nothing may follow. -/
def finish : Nat → Composing Unit
  | 0 => throw .malformed
  | fuel + 1 => do if ← accept .documentEnd then finish fuel else expect .finish

/-- Reads the only document, if there is one. -/
def document (fuel : Nat) : Composing (Option Node) := do
  match ← peek with
  | .finish => return none
  | .directive _ | .documentStart =>
    let handles ← directives fuel false []
    expect .documentStart
    modify fun c => { c with handles := handles ++ knownHandles }
    let isEmpty ← match ← peek with
      | .directive _ | .documentStart | .documentEnd | .finish => pure true
      | _ => pure false
    let n ← if isEmpty then pure Node.nothing else node false true fuel
    finish fuel
    return some n
  | _ =>
    let n ← node false true fuel
    finish fuel
    return some n

/-- The tree of the only document of a text, and a bound for its depth. -/
def composeDocument (text : List Char) : Except Error (Option Node × Nat) := do
  let ts := tokens text
  let fuel := 4 * ts.length + 8
  let (n, _) ← (document fuel).run ⟨ts, [], [], knownHandles⟩
  return (n, fuel)

end ApiDoc.Yaml
