import ApiDoc.Yaml.Property

/-!
# Text laid out by indentation

Text after a bar or a closing angle bracket runs over the lines below that are indented further. After a bar its line breaks stay; after an angle bracket a single break between two lines becomes a blank. A header says how far the text is indented, and what becomes of the line breaks at its end.

* `readBlock` reads such a text after its first character.
-/

namespace ApiDoc.Yaml

/-- What becomes of the line breaks at the end of a text. -/
inductive Chomping where
  | clip
  | keep
  | strip
  deriving DecidableEq, Repr, Inhabited

/-- What the header of a text says: what becomes of the breaks at its end, and how far its lines are indented. -/
structure BlockHeader where
  chomping : Chomping
  increment : Option Nat
  deriving DecidableEq, Repr, Inhabited

/-- What a sign says about the breaks at the end. -/
def chompingOf? (c : Char) : Option Chomping :=
  if c == '+' then some .keep else if c == '-' then some .strip else none

/-- What a digit says about the indentation. -/
def incrementOf? (c : Char) : Option Nat := if c.isDigit then some (c.toNat - '0'.toNat) else none

/-- Reads a header: a sign and a digit in any order. -/
def readHeader (s : List Char) : Option (BlockHeader × List Char) := do
  let (header, rest) : BlockHeader × List Char := match s with
    | c :: d :: rest =>
      match chompingOf? c, incrementOf? c with
      | some chomping, _ =>
        match incrementOf? d with
        | some n => (⟨chomping, some n⟩, rest)
        | none => (⟨chomping, none⟩, d :: rest)
      | none, some n =>
        match chompingOf? d with
        | some chomping => (⟨chomping, some n⟩, rest)
        | none => (⟨.clip, some n⟩, d :: rest)
      | none, none => (⟨.clip, none⟩, s)
    | [c] => (⟨(chompingOf? c).getD .clip, incrementOf? c⟩, if (chompingOf? c).isSome || c.isDigit then [] else s)
    | [] => (⟨.clip, none⟩, [])
  if header.increment == some 0 || !atSpace rest then none
  return (header, rest)

/-- Line breaks that were passed, and the place after them with the rest. -/
structure Passed where
  breaks : List Char
  place : Place
  rest : List Char
  deriving Repr, Inhabited

/-- Goes over line breaks, and over blanks up to a column at the start of each line. -/
def passTo (column : Nat) (breaks : List Char) (place : Place) : List Char → Passed
  | [] => ⟨breaks, place, []⟩
  | c :: cs =>
    if c == ' ' && place.column < column then passTo column breaks (place.after c) cs
    else if isBreak c then passTo column (breaks ++ [breakOf c]) (place.after c) cs
    else ⟨breaks, place, c :: cs⟩

/-- Goes over line breaks and blanks, and finds the greatest column that was reached over blanks. -/
def passAll (widest : Nat) (breaks : List Char) (place : Place) : List Char → Nat × Passed
  | [] => (widest, ⟨breaks, place, []⟩)
  | c :: cs =>
    if c == ' ' then passAll (max widest (place.column + 1)) breaks (place.after c) cs
    else if isBreak c then passAll widest (breaks ++ [breakOf c]) (place.after c) cs
    else (widest, ⟨breaks, place, c :: cs⟩)

def startsBlank (s : List Char) : Bool := s.head?.any fun c => c == ' ' || c == '\t'

/-- The line break at the front of a text, and the place after it with the rest. -/
def takeBreak (place : Place) : List Char → List Char × Place × List Char
  | [] => ([], place, [])
  | c :: cs => if isBreak c then ([breakOf c], place.after c, cs) else ([], place, c :: cs)

/-- What stands between two lines: nothing before more breaks and a blank otherwise where lines are joined, the break itself elsewhere. -/
def joint (folded : Bool) (line lineBreak breaks next : List Char) : List Char :=
  if folded && lineBreak == ['\n'] && !startsBlank line && !startsBlank next then
    if breaks.isEmpty then [' '] else []
  else lineBreak

/-- Reads the lines of a text from the first one on. At most `fuel` lines are read. -/
def readLines (folded : Bool) (chomping : Chomping) (column : Nat) (done : List Char) :
    Nat → Passed → Piece
  | 0, p => ⟨done, p.place, p.rest, true⟩
  | fuel + 1, p =>
    let line := p.rest.takeWhile fun c => !isBreak c
    let (lineBreak, place, rest) := takeBreak (line.foldl Place.after p.place) (p.rest.drop line.length)
    let next := passTo column [] place rest
    let done := done ++ p.breaks ++ line
    if next.place.column == column && !next.rest.isEmpty then
      readLines folded chomping column (done ++ joint folded line lineBreak next.breaks next.rest) fuel next
    else
      let tail := match chomping with
        | .clip => lineBreak
        | .keep => lineBreak ++ next.breaks
        | .strip => []
      ⟨done ++ tail, next.place, next.rest, true⟩

/-- Reads a text after the character that announces it, inside a block at some column. -/
def readBlock (folded : Bool) (indent : Int) (place : Place) (s : List Char) : Option Piece := do
  let (header, afterHeader) ← readHeader s
  let atEnd ← toLineEnd afterHeader
  let headerLine := s.take (s.length - atEnd.length)
  let (_, place, rest) := takeBreak (headerLine.foldl Place.after place) atEnd
  let least := (max (indent + 1) 1).toNat
  let (column, first) := match header.increment with
    | some n => (least + n - 1, passTo (least + n - 1) [] place rest)
    | none =>
      let (widest, first) := passAll 0 [] place rest
      (max least widest, first)
  if first.place.column == column && !first.rest.isEmpty then
    return readLines folded header.chomping column [] (first.rest.length + 1) first
  else
    return ⟨if header.chomping == .keep then first.breaks else [], first.place, first.rest, true⟩

end ApiDoc.Yaml
