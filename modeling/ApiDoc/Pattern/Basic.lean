import ApiDoc.Text.Blank
import ApiDoc.Text.Word

/-!
# Patterns

The expressions that settings use to pick out comment lines. An expression already carries the options in force where it was written: whether letters match in either case, whether the any-character sign also matches a line feed, and whether the line anchors look at every line.
-/

namespace ApiDoc.Pattern

inductive Category where
  | digit
  | space
  | word
  deriving DecidableEq, Repr, Inhabited

/-- Whether a character is of a category, over all of Unicode or over ASCII only. -/
def Category.holds (ascii : Bool) : Category → Char → Bool
  | .digit, c => if ascii then c.isDigit else Text.isDigit c
  | .space, c => if ascii then c == ' ' || (9 ≤ c.toNat && c.toNat ≤ 13) else Text.isBlank c
  | .word, c => if ascii then Text.isAsciiWord c else Text.isWord c

/-- A member of a character set. Code points stand for characters, since an escape may name one that no text can hold. -/
inductive SetItem where
  | code (n : Nat)
  | range (lo hi : Nat)
  | category (kind : Category) (negated : Bool)
  deriving DecidableEq, Repr, Inhabited

/-- How a set compares characters. -/
structure SetMode where
  ignoreCase : Bool
  ascii : Bool
  deriving DecidableEq, Repr, Inhabited

inductive Anchor where
  /-- The start of the text. -/
  | textStart
  /-- The start of the text or just after a line feed. -/
  | lineStart
  /-- The end of the text. -/
  | textEnd
  /-- The end of the text or before a line feed that ends it. -/
  | lastLineEnd
  /-- The end of the text or before any line feed. -/
  | lineEnd
  /-- Between a word character and another character or an end. -/
  | wordEdge (ascii : Bool)
  /-- Any place in a text that is not empty and is no word edge. -/
  | noWordEdge (ascii : Bool)
  deriving DecidableEq, Repr, Inhabited

/-- Which count of repetitions is tried first, and whether another may be tried after it. -/
inductive Greed where
  | greedy
  | reluctant
  | possessive
  deriving DecidableEq, Repr, Inhabited

/-- Expressions. Groups are numbered from one. -/
inductive Regex where
  /-- The empty text. -/
  | empty
  /-- One character of a set, or one outside it. -/
  | oneOf (mode : SetMode) (negated : Bool) (items : List SetItem)
  /-- Any character; a line feed only when asked for. -/
  | any (lineFeed : Bool)
  /-- A position. -/
  | anchor (a : Anchor)
  /-- One expression after another. -/
  | seq (a b : Regex)
  /-- Either of two expressions, the first one preferred. -/
  | alt (a b : Regex)
  /-- An expression whose matched text is kept under a number. -/
  | capture (index : Nat) (r : Regex)
  /-- Repetitions between two counts; no upper count means any number. -/
  | repeated (greed : Greed) (least : Nat) (most : Option Nat) (r : Regex)
  /-- The text kept under a number. -/
  | backref (mode : SetMode) (index : Nat)
  /-- A condition on the text ahead. -/
  | ahead (negated : Bool) (r : Regex)
  /-- A condition on the `width` characters behind. -/
  | behind (negated : Bool) (width : Nat) (r : Regex)
  /-- An expression whose first match is final. -/
  | atomic (r : Regex)
  /-- One of two expressions, by whether a group has matched. -/
  | ifMatched (index : Nat) (yes no : Regex)
  deriving DecidableEq, Repr, Inhabited

/-- The expressions one after another. -/
def Regex.ofList : List Regex → Regex
  | [] => .empty
  | [r] => r
  | r :: rs => .seq r (ofList rs)

/-- Any of the expressions, earlier ones preferred. -/
def Regex.anyOf : List Regex → Regex
  | [] => .empty
  | [r] => r
  | r :: rs => .alt r (anyOf rs)

/-- Whether an expression asks what a group has matched. -/
def Regex.asksGroups : Regex → Bool
  | .backref .. | .ifMatched .. => true
  | .empty | .oneOf .. | .any _ | .anchor _ => false
  | .seq a b | .alt a b => a.asksGroups || b.asksGroups
  | .capture _ r | .repeated _ _ _ r | .ahead _ r | .behind _ _ r | .atomic r => r.asksGroups

/-- The widest width that is counted. -/
def widthLimit : Nat := Nat.pow 2 64

/-- The least and the greatest number of characters an expression can match, given those of the numbered groups. -/
def Regex.width (groups : List (Nat × Nat)) : Regex → Nat × Nat
  | .empty | .anchor _ | .ahead .. | .behind .. => (0, 0)
  | .oneOf .. | .any _ => (1, 1)
  | .seq a b =>
    let (la, ha) := a.width groups
    let (lb, hb) := b.width groups
    (min (la + lb) widthLimit, min (ha + hb) widthLimit)
  | .alt a b =>
    let (la, ha) := a.width groups
    let (lb, hb) := b.width groups
    (min la lb, max ha hb)
  | .capture _ r | .atomic r => r.width groups
  | .repeated _ least most r =>
    let (lo, hi) := r.width groups
    (min (lo * least) widthLimit,
      match most with
      | none => if hi == 0 then 0 else widthLimit
      | some n => min (hi * n) widthLimit)
  | .backref _ index => groups.getD (index - 1) (0, 0)
  | .ifMatched _ yes no =>
    let (ly, hy) := yes.width groups
    let (ln, hn) := no.width groups
    (min ly ln, max hy hn)

end ApiDoc.Pattern
