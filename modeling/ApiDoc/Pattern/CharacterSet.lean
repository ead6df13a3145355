import ApiDoc.Pattern.Basic
import ApiDoc.Text.Case

/-!
# Characters and places that an expression asks for

Membership in character sets, with letters in either case where that is asked for, and the places in a text that anchors stand for. A place is the number of characters before it.

A single character matches in all its cases. In a set of several members the cases are those of the basic plane: a member beyond it matches as it is written, against the small letter, and a range that reaches beyond it also takes the characters whose capital lies in it.
-/

namespace ApiDoc.Pattern

/-! ## Sets -/

/-- Code points below this one belong to the basic plane. -/
def basicPlane : Nat := 0x10000

/-- The small letter of a character, under the options of a set. -/
def SetMode.fold (mode : SetMode) (c : Char) : Char := if mode.ascii then c.toLower else Text.lower c

/-- The code points of the characters that differ from `c` in case only, `c` among them. -/
def SetMode.variants (mode : SetMode) (c : Char) : List Nat :=
  if mode.ascii then [c.toNat, c.toLower.toNat, c.toUpper.toNat] else Text.caseVariants c

def between (lo hi n : Nat) : Bool := lo ≤ n && n ≤ hi

/-- Whether a range covers a character in some case. -/
def SetMode.inRange (mode : SetMode) (lo hi : Nat) (c : Char) : Bool :=
  let small := mode.fold c
  ((mode.variants c).any fun n => n < basicPlane && between lo hi n)
    || (basicPlane ≤ hi
      && (between lo hi small.toNat || ((Text.upper small).head?.any fun d => between lo hi d.toNat)))

/-- Whether a member of a set of several covers a character. -/
def SetItem.covers (mode : SetMode) (c : Char) : SetItem → Bool
  | .code n =>
    if !mode.ignoreCase then c.toNat == n
    else if n < basicPlane then (mode.variants c).contains n
    else (mode.fold c).toNat == n
  | .range lo hi => if mode.ignoreCase then mode.inRange lo hi c else between lo hi c.toNat
  | .category kind negated => kind.holds mode.ascii c != negated

/-- Whether a character is a given one, in any case where that is asked for. -/
def SetMode.isCode (mode : SetMode) (n : Nat) (c : Char) : Bool :=
  if mode.ignoreCase then (mode.variants c).contains n else c.toNat == n

def holdsCharacter (mode : SetMode) : List SetItem → Char → Bool
  | [.code n], c => mode.isCode n c
  | items, c => items.any (·.covers mode c)

/-- The test that an expression for one character puts to it. -/
def Regex.test? : Regex → Option (Char → Bool)
  | .oneOf mode negated items => some fun c => holdsCharacter mode items c != negated
  | .any lineFeed => some fun c => lineFeed || c != '\n'
  | _ => none

/-- Whether two characters agree where a group is matched again. -/
def SetMode.same (mode : SetMode) (a b : Char) : Bool :=
  if mode.ignoreCase then mode.fold a == mode.fold b else a == b

/-! ## Places -/

/-- Whether the character after a place passes a test. -/
def passes (text : Array Char) (test : Char → Bool) (p : Nat) : Bool := (text[p]?).any test

/-- The place after the characters that pass a test, at most `limit` of them. -/
def runEnd (text : Array Char) (test : Char → Bool) : (limit p : Nat) → Nat
  | 0, p => p
  | limit + 1, p => if passes text test p then runEnd text test limit (p + 1) else p

/-- Whether a place has a word character on one side only. -/
def isWordEdge (ascii : Bool) (text : Array Char) (p : Nat) : Bool :=
  let word := passes text (Category.word.holds ascii)
  (p != 0 && word (p - 1)) != word p

/-- Whether a place is one that an anchor asks for. -/
def Anchor.holds (text : Array Char) (p : Nat) : Anchor → Bool
  | .textStart => p == 0
  | .lineStart => p == 0 || passes text (· == '\n') (p - 1)
  | .textEnd => p == text.size
  | .lastLineEnd => p == text.size || (p + 1 == text.size && passes text (· == '\n') p)
  | .lineEnd => p == text.size || passes text (· == '\n') p
  | .wordEdge ascii => text.size != 0 && isWordEdge ascii text p
  | .noWordEdge ascii => text.size != 0 && !isWordEdge ascii text p

/-- How many rounds of a repetition may follow the needed ones; none of them but the last is empty. -/
def extraRounds (text : Array Char) (least : Nat) (most : Option Nat) : Nat :=
  match most with
  | none => text.size + 1
  | some n => min (n - least) (text.size + 1)

end ApiDoc.Pattern
