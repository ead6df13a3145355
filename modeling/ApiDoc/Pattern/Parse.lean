import ApiDoc.Number.Literal
import ApiDoc.Pattern.Token
import ApiDoc.Text.CharacterName.Lookup
import ApiDoc.Text.Identifier

/-!
# Reading written patterns

Turns a written pattern into an expression, or says what is wrong with it and where. `compile` reads a pattern that is to be matched at the start of a line after any blanks.
-/

namespace ApiDoc.Pattern

open Reader

/-! ## Escapes -/

/-- Control characters with an escape of their own. -/
def controlEscapes : List (Char × Nat) :=
  [('a', 7), ('b', 8), ('f', 12), ('n', 10), ('r', 13), ('t', 9), ('v', 11), ('\\', 92)]

/-- Categories with an escape of their own. -/
def categoryEscapes : List (Char × SetItem) :=
  [('d', .category .digit false), ('D', .category .digit true), ('s', .category .space false),
    ('S', .category .space true), ('w', .category .word false), ('W', .category .word true)]

/-- Anchors with an escape of their own. -/
def anchorEscapes (ascii : Bool) : List (Char × Anchor) :=
  [('A', .textStart), ('b', .wordEdge ascii), ('B', .noWordEdge ascii), ('Z', .textEnd)]

def isHex (c : Char) : Bool := c.isDigit || ('a' ≤ c && c ≤ 'f') || ('A' ≤ c && c ≤ 'F')

def isOctal (c : Char) : Bool := '0' ≤ c && c ≤ '7'

/-- The value of a digit in any base up to sixteen. -/
def digitOf (c : Char) : Nat :=
  if c.isDigit then c.toNat - 48 else if 'a' ≤ c then c.toNat - 87 else c.toNat - 55

def inBase (base : Nat) (digits : List Char) : Nat := digits.foldl (fun n c => base * n + digitOf c) 0

/-- The characters of an escape so far, as a string. -/
def escapeText (letter : Char) (digits : List Char) : String := String.ofList ('\\' :: letter :: digits)

/-- Reads the digits of an escape that names a code point with exactly `width` of them. -/
def codeEscape (letter : Char) (width : Nat) : Reader Nat := do
  let digits ← takeWhile width isHex
  if digits.length != width then
    fail (.incompleteEscape (escapeText letter digits)) (digits.length + 2)
  let n := inBase 16 digits
  if n > 0x10FFFF then fail (.badEscape (escapeText letter digits)) (digits.length + 2)
  return n

/-- Reads the name of a character. -/
def namedEscape : Reader Nat := do
  if !(← accept '\x7b') then fail .missingBrace 0
  let name ← takeUntil '\x7d' "character name"
  match Text.characterNamed? name with
  | some n => return n
  | none => fail (.undefinedCharacterName (String.ofList name)) (name.length + 4)

/-- Reads an octal escape of which the first digits are known. -/
def octalEscape (digits : List Char) : Reader Nat := do
  let n := inBase 8 digits
  if n > 255 then fail (.octalRange (String.ofList ('\\' :: digits))) (digits.length + 1)
  return n

/-- Reads the escapes that mean the same everywhere and name a character. -/
def characterEscape (c : Char) : Reader Nat := do
  if c == 'x' then codeEscape c 2
  else if c == 'u' then codeEscape c 4
  else if c == 'U' then codeEscape c 8
  else if c == 'N' then namedEscape
  else if c.isAlphanum then fail (.badEscape (escapeText c [])) 2
  else return c.toNat

def setEscape (c : Char) : Reader SetItem := do
  match controlEscapes.lookup c, categoryEscapes.lookup c with
  | some n, _ => return .code n
  | none, some item => return item
  | none, none =>
    if isOctal c then return .code (← octalEscape (c :: (← takeWhile 2 isOctal)))
    else return .code (← characterEscape c)

/-- What a part of a sequence is, as far as repetition signs after it and alternatives around it are concerned. -/
inductive PartKind where
  /-- One character, or what a group has matched. -/
  | simple
  /-- A position, which cannot be repeated. -/
  | anchor
  /-- A repetition, which cannot be repeated. -/
  | repeated
  /-- Anything with parts of its own. -/
  | compound
  deriving DecidableEq, Repr, Inhabited

structure Part where
  kind : PartKind
  regex : Regex
  deriving DecidableEq, Repr, Inhabited

def Part.character (f : Flags) (n : Nat) : Part := ⟨.simple, .oneOf f.mode false [.code n]⟩

/-- The expression for parts one after another. -/
def sequenceOf (parts : List Part) : Regex := Regex.ofList (parts.map Part.regex)

/-- Reads a reference to a group by its number. -/
def groupEscape (f : Flags) (digits : List Char) : Reader Part := do
  let index := inBase 10 digits
  if index ≤ (← get).groups.length then
    if !(← isClosed index) then fail .openGroupReference (digits.length + 1)
    checkBehind index
    return ⟨.simple, .backref f.mode index⟩
  else fail (.unknownGroupNumber index) digits.length

/-- Reads a number escape: an octal one when it has three octal digits, else a reference to a group. -/
def numberEscape (f : Flags) (c : Char) : Reader Part := do
  match ← takeWhile 1 Char.isDigit with
  | [] => groupEscape f [c]
  | d :: _ =>
    let third ← if isOctal c && isOctal d then takeWhile 1 isOctal else pure []
    if third.isEmpty then groupEscape f [c, d]
    else return .character f (← octalEscape (c :: d :: third))

/-- Reads an escape outside sets. -/
def escape (f : Flags) (c : Char) : Reader Part := do
  match (anchorEscapes f.ascii).lookup c, categoryEscapes.lookup c, controlEscapes.lookup c with
  | some a, _, _ => return ⟨.anchor, .anchor a⟩
  | none, some item, _ => return ⟨.simple, .oneOf f.mode false [item]⟩
  | none, none, some n => return .character f n
  | none, none, none =>
    if c == '0' then return .character f (inBase 8 (← takeWhile 2 isOctal))
    else if c.isDigit then numberEscape f c
    else return .character f (← characterEscape c)

/-! ## Sets -/

/-- Reads one end of a range or a single member. -/
def setMember : Token → Reader SetItem
  | .plain c => return .code c.toNat
  | .escaped c => setEscape c

/-- Reads the members of a set up to its closing bracket; `opened` is the place of the opening one. -/
def setMembers (opened : Nat) : Nat → List SetItem → Reader (List SetItem)
  | 0, _ => fail .unterminatedSet 0
  | fuel + 1, items => do
    let unterminated : Reader Unit := do fail .unterminatedSet ((← get).position - opened)
    let some first ← takeOne | unterminated; return items
    if first == .plain ']' && !items.isEmpty then return items
    let item ← setMember first
    if !(← accept '-') then return ← setMembers opened fuel (items ++ [item])
    let some second ← takeOne | unterminated; return items
    if second == .plain ']' then return items ++ [item, .code 45]
    let other ← setMember second
    let bad := Fault.badRange (String.ofList first.text) (String.ofList second.text)
    match item, other with
    | .code lo, .code hi =>
      if hi < lo then fail bad (first.width + 1 + second.width)
      setMembers opened fuel (items ++ [.range lo hi])
    | _, _ => fail bad (first.width + 1 + second.width)

/-- Reads a set after its opening bracket. -/
def characterSet (f : Flags) : Reader Part := do
  let opened := (← get).position - 1
  let negated ← accept '^'
  let items ← setMembers opened ((← get).rest.length + 1) []
  return ⟨.simple, .oneOf f.mode negated items.eraseDups⟩

/-! ## Repetitions -/

/-- Counts from this one on are refused. -/
def countLimit : Nat := 4294967295

def count (digits : List Char) : Reader Nat := do
  match Number.readDigits digits with
  | .error e => throw (.countTooLong e)
  | .ok n => if n ≥ countLimit then throw .countTooLarge else return n

/-- Reads the counts of a repetition after its opening brace. There are none when the brace is an ordinary character; then nothing is taken. -/
def braceCounts : Reader (Option (Nat × Option Nat)) := do
  let start ← get
  if start.rest.head? == some (.plain '\x7d') then return none
  let lo ← takeAll Char.isDigit
  let hi ← if ← accept ',' then takeAll Char.isDigit else pure lo
  if !(← accept '\x7d') then
    set start
    return none
  let least ← if lo.isEmpty then pure 0 else count lo
  let most ← if hi.isEmpty then pure none else some <$> count hi
  if most.any (· < least) then fail .repeatBounds ((← get).position - start.position)
  return some (least, most)

/-- Reads the sign after a repetition that says how greedy it is. -/
def repeatGreed : Reader Greed := do
  if ← accept '?' then return .reluctant
  if ← accept '+' then return .possessive
  return .greedy

/-- What has been read of a sequence: single parts, and brackets that only hold parts together. -/
inductive Piece where
  | part (p : Part)
  | bracket (parts : List Part)
  deriving DecidableEq, Repr, Inhabited

def Piece.parts : Piece → List Part
  | .part p => [p]
  | .bracket parts => parts

/-- Applies a repetition to the last piece read; `sign` is the place of the repetition sign. -/
def repeatLast (sign least : Nat) (most : Option Nat) (pieces : List Piece) : Reader (List Piece) := do
  let offset := (← get).position - sign
  match pieces with
  | [] => fail .nothingToRepeat offset
  | last :: others =>
    match last with
    | .part ⟨.anchor, _⟩ => fail .nothingToRepeat offset
    | .part ⟨.repeated, _⟩ => fail .multipleRepeat offset
    | _ => return .part ⟨.repeated, .repeated (← repeatGreed) least most (sequenceOf last.parts)⟩ :: others

/-! ## Options -/

def flagLetters : List Char := ['i', 'L', 'm', 's', 'x', 'a', 't', 'u']

/-- The letters of the options on the kind of characters. -/
def typeLetters : List Char := ['a', 'L', 'u']

def badFlag {α : Type} (token : Token) (otherwise : Fault) : Reader α :=
  fail (if token.isPlain Text.isLetter then .unknownFlag else otherwise) token.width

/-- Reads the letters of the options to switch on, from a first one to the sign that ends them. -/
def flagsOn : Nat → Char → List Char → Reader (List Char × Char)
  | 0, _, _ => fail .missingFlagEnd 0
  | fuel + 1, c, on => do
    if c == 'L' then fail .localeFlag 0
    let on := on ++ [c]
    if typeLetters.contains c && on.any (fun d => typeLetters.contains d && d != c) then
      fail .incompatibleFlags 0
    let some next ← takeOne | fail .missingFlagEnd 0
    match next with
    | .plain d =>
      if d == ')' || d == '-' || d == ':' then return (on, d)
      else if flagLetters.contains d then flagsOn fuel d on
      else badFlag next .missingFlagEnd
    | .escaped _ => badFlag next .missingFlagEnd

/-- Reads the letters of the options to switch off, up to the colon. -/
def flagsOff : Nat → Char → List Char → Reader (List Char)
  | 0, _, _ => fail .missingColon 0
  | fuel + 1, c, off => do
    if typeLetters.contains c then fail .typeFlagOff 0
    let off := off ++ [c]
    let some next ← takeOne | fail .missingColon 0
    match next with
    | .plain d =>
      if d == ':' then return off
      else if flagLetters.contains d then flagsOff fuel d off
      else badFlag next .missingColon
    | .escaped _ => badFlag next .missingColon

def Flags.change (f : Flags) (on off : List Char) : Flags :=
  let switch (letter : Char) (old : Bool) : Bool := (old || on.contains letter) && !off.contains letter
  { ignoreCase := switch 'i' f.ignoreCase
    multiline := switch 'm' f.multiline
    dotAll := switch 's' f.dotAll
    verbose := switch 'x' f.verbose
    ascii := if on.contains 'a' then true else if on.contains 'u' then false else f.ascii }

/-- Reads option letters, of which the first sign is known. Options for the whole pattern are refused: some of it has been read already. -/
def groupFlags (f : Flags) (opened : Nat) (c : Char) : Reader Flags := do
  let fuel := (← get).rest.length + 1
  let (on, stop) ← if c == '-' then pure ([], '-') else flagsOn fuel c []
  if stop == ')' then fail .globalFlagsLate ((← get).position - opened)
  if on.contains 't' then fail .globalFlagOn 1
  if stop == ':' then return f.change on []
  let some next ← takeOne | fail .missingFlag 0
  let first ← match next with
    | .plain d => if flagLetters.contains d then pure d else badFlag next .missingFlag
    | .escaped _ => badFlag next .missingFlag
  let off ← flagsOff fuel first []
  if off.contains 't' then fail .globalFlagOff 1
  if on.any off.contains then fail .flagOnAndOff 1
  return f.change on off

/-! ## Groups -/

def checkName (name : List Char) : Reader Unit :=
  if Text.isName name then return else fail (.groupNameCharacter (String.ofList name)) (name.length + 1)

/-- Reads a reference to a group by its name, up to the closing bracket. -/
def namedReference (f : Flags) : Reader Part := do
  let name ← takeUntil ')' "group name"
  checkName name
  match (← get).names.lookup (String.ofList name) with
  | none => fail (.unknownGroupName (String.ofList name)) (name.length + 1)
  | some index =>
    if !(← isClosed index) then fail .openGroupReference (name.length + 1)
    checkBehind index
    return ⟨.simple, .backref f.mode index⟩

/-- The number of the group that a condition asks for; any way to write a whole number will do. -/
def groupNumber? (name : List Char) : Option Nat :=
  match Number.readWhole 10 name with
  | .ok n => n.toNat?
  | .error _ => none

/-- Reads the group that a condition asks for, by name or by number. -/
def conditionGroup : Reader Nat := do
  let name ← takeUntil ')' "group name"
  let offset := name.length + 1
  let index ←
    if Text.isName name then
      match (← get).names.lookup (String.ofList name) with
      | none => fail (.unknownGroupName (String.ofList name)) offset
      | some index => pure index
    else
      match groupNumber? name with
      | none => fail (.groupNameCharacter (String.ofList name)) offset
      | some index => do
        if index == 0 then fail .groupNumberZero offset
        if index ≥ 1073741823 then fail (.unknownGroupNumber index) offset
        modify fun s =>
          if (s.conditions.lookup index).isSome then s
          else { s with conditions := s.conditions ++ [(index, s.position - offset)] }
        pure index
  checkBehind index
  return index

/-- Skips a comment group. -/
def skipComment (opened : Nat) : Reader Unit := do
  let found := (← get).rest.takeWhile (· != .plain ')')
  let _ ← takeMany found.length
  if !(← accept ')') then fail .unterminatedComment ((← get).position - opened)

def closeBracket (opened : Nat) : Reader Unit := do
  if !(← accept ')') then fail .unterminatedGroup ((← get).position - opened)

/-- Notes a condition on the text behind that cannot be checked. -/
def noteBehind (r : Regex) : Reader Nat := do
  let (lo, hi) := r.width (Reading.widths (← get))
  let fault := if lo > 4294967295 then some Error.behindTooFar
    else if lo != hi then some Error.behindWidth else none
  modify fun s => { s with late := s.late <|> fault }
  return lo

/-- What the first characters of a bracket announce. -/
inductive Opening where
  /-- A group whose match is kept, maybe under a name. -/
  | capture (name : Option (List Char))
  /-- A bracket that only holds its parts together. -/
  | bracket
  /-- A group with these options. -/
  | options (f : Flags)
  | atomic
  | ahead (negated : Bool)
  | behind (negated : Bool)
  | condition (index : Nat)
  /-- A complete part without anything enclosed. -/
  | part (p : Part)
  /-- A comment. -/
  | nothing

def namedOpening (f : Flags) : Reader Opening := do
  if ← accept '<' then
    let name ← takeUntil '>' "group name"
    checkName name
    return .capture (some name)
  else if ← accept '=' then return .part (← namedReference f)
  else
    let some token ← takeOne | fail .unexpectedEnd 0
    fail (.unknownExtension (String.ofList ('P' :: token.text))) (token.width + 2)

/-- Reads what follows the sign for conditions on the text behind. -/
def behindOpening : Reader Opening := do
  let some token ← takeOne | fail .unexpectedEnd 0
  if token == .plain '=' then return .behind false
  else if token == .plain '!' then return .behind true
  else fail (.unknownExtension (String.ofList ('<' :: token.text))) (token.width + 2)

def opening (f : Flags) (opened : Nat) : Reader Opening := do
  if !(← accept '?') then return .capture none
  let some token ← takeOne | fail .unexpectedEnd 0
  match token with
  | .plain 'P' => namedOpening f
  | .plain ':' => return .bracket
  | .plain '#' =>
    skipComment opened
    return .nothing
  | .plain '=' => return .ahead false
  | .plain '!' => return .ahead true
  | .plain '<' => behindOpening
  | .plain '(' => return .condition (← conditionGroup)
  | .plain '>' => return .atomic
  | .plain c =>
    if flagLetters.contains c || c == '-' then return .options (← groupFlags f opened c)
    else fail (.unknownExtension (String.ofList [c])) 2
  | .escaped _ => fail (.unknownExtension (String.ofList token.text)) (token.width + 1)

/-! ## Sequences and alternatives -/

/-- Skips a comment of the free layout, up to the end of the line. -/
def skipLine : Reader Unit := do
  let found := (← get).rest.takeWhile (· != .plain '\n')
  let _ ← takeMany (found.length + 1)

/-- Reads a token that is neither a bracket nor a repetition sign. -/
def simplePart (f : Flags) : Token → Reader Part
  | .escaped c => escape f c
  | .plain '.' => return ⟨.simple, .any f.dotAll⟩
  | .plain '^' => return ⟨.anchor, .anchor (if f.multiline then .lineStart else .textStart)⟩
  | .plain '$' => return ⟨.anchor, .anchor (if f.multiline then .lineEnd else .lastLineEnd)⟩
  | .plain '[' => characterSet f
  | .plain c => return .character f c.toNat

/-- The counts that a repetition sign stands for; none when the sign is an ordinary character. -/
def signCounts : Char → Reader (Option (Nat × Option Nat))
  | '*' => return some (0, none)
  | '+' => return some (1, none)
  | '?' => return some (0, some 1)
  | _ => braceCounts

/-- Whether a token is a repetition sign. -/
def isRepeatSign (c : Char) : Bool := c == '*' || c == '+' || c == '?' || c == '\x7b'

/-- Whether a character is skipped in the free layout. -/
def isLayoutBlank (c : Char) : Bool := c == ' ' || (9 ≤ c.toNat && c.toNat ≤ 13)

/-- The first part of every alternative, if all start with the same one. Only parts without parts of their own are compared. -/
def commonFirst? : List (List Part) → Option Part
  | [] => none
  | first :: others => do
    let part ← first.head?
    if (part.kind == .simple || part.kind == .anchor) && others.all (·.head? == some part) then some part else none

/-- Splits off the parts that all alternatives start with. -/
def commonParts : Nat → List (List Part) → List Part × List (List Part)
  | 0, branches => ([], branches)
  | fuel + 1, branches =>
    match commonFirst? branches with
    | none => ([], branches)
    | some part =>
      let (parts, rest) := commonParts fuel (branches.map (·.drop 1))
      (part :: parts, rest)

/-- The members of an alternative that is one character of a set. -/
def members? : List Part → Option (List SetItem)
  | [⟨.simple, .oneOf _ false items⟩] => some items
  | _ => none

/-- The parts that several alternatives amount to. What all start with stands before them, and alternatives of one character each make up a set. -/
def joined (f : Flags) (branches : List (List Part)) : List Part :=
  let (common, rest) := commonParts branches.flatten.length branches
  match rest.mapM members? with
  | some sets => common ++ [⟨.simple, .oneOf f.mode false sets.flatten.eraseDups⟩]
  | none => common ++ [⟨.compound, Regex.anyOf (rest.map sequenceOf)⟩]

mutual

/-- Reads alternatives up to a closing bracket or the end. -/
def alternatives : Nat → Flags → Reader (List Part)
  | 0, _ => fail .unexpectedEnd 0
  | fuel + 1, f => do
    let first ← sequence fuel f []
    let others ← otherAlternatives fuel f
    return if others.isEmpty then first else joined f (first :: others)

def otherAlternatives : Nat → Flags → Reader (List (List Part))
  | 0, _ => fail .unexpectedEnd 0
  | fuel + 1, f => do
    if ← accept '|' then
      let next ← sequence fuel f []
      return next :: (← otherAlternatives fuel f)
    else return []

/-- Reads parts, given the pieces already read, latest first. -/
def sequence : Nat → Flags → List Piece → Reader (List Part)
  | 0, _, _ => fail .unexpectedEnd 0
  | fuel + 1, f, pieces => do
    let finished : Reader (List Part) := return pieces.reverse.flatMap Piece.parts
    match ← peek with
    | none => finished
    | some token =>
      if token == .plain '|' || token == .plain ')' then finished
      else
        let sign := (← get).position
        let _ ← takeOne
        if f.verbose && token.isPlain isLayoutBlank then sequence fuel f pieces
        else if f.verbose && token == .plain '#' then
          skipLine
          sequence fuel f pieces
        else if token == .plain '(' then
          match ← group fuel f sign with
          | none => sequence fuel f pieces
          | some piece => sequence fuel f (piece :: pieces)
        else if token.isPlain isRepeatSign then
          match ← signCounts (token.text.headD ' ') with
          | none => sequence fuel f (.part (.character f 123) :: pieces)
          | some (least, most) => sequence fuel f (← repeatLast sign least most pieces)
        else sequence fuel f (.part (← simplePart f token) :: pieces)

/-- Reads a group after its opening bracket, whose place is `opened`. A comment gives nothing. -/
def group : Nat → Flags → Nat → Reader (Option Piece)
  | 0, _, _ => fail .unexpectedEnd 0
  | fuel + 1, f, opened => do
    match ← opening f opened with
    | .nothing => return none
    | .part p => return some (.part p)
    | .capture name =>
      let index ← openGroup name
      let r := sequenceOf (← alternatives fuel f)
      closeBracket opened
      closeGroup index r
      return some (.part ⟨.compound, .capture index r⟩)
    | .bracket =>
      let parts ← alternatives fuel f
      closeBracket opened
      return some (.bracket parts)
    | .options inner =>
      let parts ← alternatives fuel inner
      closeBracket opened
      return some (.part ⟨.compound, sequenceOf parts⟩)
    | .atomic =>
      let r := sequenceOf (← alternatives fuel f)
      closeBracket opened
      return some (.part ⟨.compound, .atomic r⟩)
    | .ahead negated =>
      let r := sequenceOf (← alternatives fuel f)
      closeBracket opened
      return some (.part ⟨.compound, .ahead negated r⟩)
    | .behind negated =>
      let outer := (← get).behindFrom
      modify fun s => { s with behindFrom := outer <|> some s.groups.length }
      let r := sequenceOf (← alternatives fuel f)
      modify fun s => { s with behindFrom := outer }
      closeBracket opened
      return some (.part ⟨.compound, .behind negated (← noteBehind r) r⟩)
    | .condition index =>
      let yes ← sequence fuel f []
      let no ← if ← accept '|' then sequence fuel f [] else pure []
      if (← peek) == some (.plain '|') then fail .conditionBranches 0
      closeBracket opened
      return some (.part ⟨.compound, .ifMatched index (sequenceOf yes) (sequenceOf no)⟩)

end

/-- Reads a whole pattern. -/
def wholePattern : Reader Regex := do
  let r := sequenceOf (← alternatives (4 * (← get).rest.length + 4) .start)
  if (← peek).isSome then fail .unbalanced 0
  let s ← get
  match s.conditions.find? fun entry => entry.1 > s.groups.length with
  | some (index, position) => throw (.fault (.unknownGroupNumber index) position none)
  | none => pure ()
  match s.late with
  | some e => throw e
  | none => return r

/-! ## Whole patterns -/

/-- The line and the column of a place in a pattern, both from one. -/
def lineColumn (text : List Char) (position : Nat) : Nat × Nat :=
  let earlier := text.take position
  (earlier.count '\n' + 1, (earlier.reverse.takeWhile (· != '\n')).length + 1)

/-- Adds the line and the column to a fault in a pattern of several lines. -/
def Error.located (text : List Char) : Error → Error
  | .fault what position _ =>
    .fault what position (if text.contains '\n' then some (lineColumn text position) else none)
  | e => e

def Regex.parse (text : List Char) : Except Error Regex :=
  match tokens? text with
  | none => .error ((Error.fault .escapeAtEnd (text.length - 1) none).located text)
  | some ts =>
    match wholePattern.run ⟨ts, 0, [], [], none, [], none⟩ with
    | .ok (r, _) => .ok r
    | .error e => .error (e.located text)

/-- The text of a pattern that is matched at the start of a line after any blanks. -/
def wrapped (pattern : String) : List Char := "^\\s*(?:".toList ++ pattern.toList ++ [')']

/-- Reads a pattern that is to be matched at the start of a line after any blanks. -/
def compile (pattern : String) : Except Error Regex := Regex.parse (wrapped pattern)

end ApiDoc.Pattern
