import ApiDoc.Pattern.CharacterSet

/-!
# Searching with groups

The ways of an expression are tried in order of preference, and what the groups have matched is kept in marks. `Regex.search` is written with continuations: it looks for a way from a place after which `next` succeeds. It recurses on the expression, and inside a repetition on the number of rounds left, which the text bounds.

A way that fails gives back the marks that it added. Marks that stood before it and were moved by it go back to their places only inside a repetition; outside they stay where the failed way left them. A group whose end lies before its start has not matched.
-/

namespace ApiDoc.Pattern

/-- Places of the groups: group `i` starts at mark `2 * i - 2` and ends at the mark after it. -/
abbrev Marks := Array (Option Nat)

/-- Moves a mark to a place. Marks that are skipped have none. -/
def Marks.put (marks : Marks) (index place : Nat) : Marks :=
  (marks ++ Array.replicate (index + 1 - marks.size) none).setIfInBounds index (some place)

/-- The start and the end of what a group has matched. -/
def Marks.group? (marks : Marks) (index : Nat) : Option (Nat × Nat) := do
  let start ← (marks[2 * index - 2]?).join
  let stop ← (marks[2 * index - 1]?).join
  if start ≤ stop then some (start, stop) else none

/-- A search that ends at a place, or nowhere. The marks it leaves count also when it fails. -/
abbrev Search := StateM Marks (Option Nat)

/-- What has to succeed after a match. -/
abbrev Next := Nat → Search

/-- The marks after a way has failed; `inner` says that the way lies inside a repetition. -/
def Marks.restored (inner : Bool) (before now : Marks) : Marks := if inner then before else now.take before.size

/-- Tries a way and restores the marks if it fails. -/
def attempt (inner : Bool) (way : Search) : Search := do
  let before ← get
  match ← way with
  | some p => return some p
  | none =>
    modify (Marks.restored inner before)
    return none

/-- Tries a way, and after its failure another one. -/
def firstOf (inner : Bool) (way other : Search) : Search := do
  match ← attempt inner way with
  | some p => return some p
  | none => other

/-! ## Repetitions of one character -/

/-- Goes on from a place some characters further, then from one character less, down to the place itself. -/
def fewer (inner : Bool) (next : Next) (p : Nat) : Nat → Search
  | 0 => attempt inner (next p)
  | n + 1 => firstOf inner (next (p + n + 1)) (fewer inner next p n)

/-- Goes on from a place, then from the place after one more character, and so on. -/
def further (inner : Bool) (text : Array Char) (test : Char → Bool) (next : Next) : (limit p : Nat) → Search
  | 0, p => attempt inner (next p)
  | limit + 1, p =>
    firstOf inner (next p)
      (if passes text test p then further inner text test next limit (p + 1) else return none)

/-- Repeats a character that passes a test. -/
def repeatCharacter (inner : Bool) (text : Array Char) (test : Char → Bool) (greed : Greed) (least : Nat)
    (most : Option Nat) (p : Nat) (next : Next) : Search :=
  let needed := runEnd text test (min least (text.size + 1)) p
  let extra := extraRounds text least most
  if needed - p < least then return none
  else match greed with
    | .greedy => fewer inner next needed (runEnd text test extra needed - needed)
    | .reluctant => further inner text test next extra needed
    | .possessive => next (runEnd text test extra needed)

/-! ## Repetitions of an expression -/

/-- Whether one more round may be tried: the upper count is not reached, and the round before moved on. -/
def mayRepeat (most : Option Nat) (count : Nat) (last : Option Nat) (p : Nat) : Bool :=
  most.all (count < ·) && last != some p

/-- Repeats as often as possible, with fewer rounds as later choices. -/
def greedyRounds (body : Nat → Next → Search) (least : Nat) (most : Option Nat) (next : Next) :
    (rounds count : Nat) → (last : Option Nat) → Next
  | 0, _, _, p => next p
  | rounds + 1, count, last, p =>
    if count < least then body p (greedyRounds body least most next rounds (count + 1) last)
    else if mayRepeat most count last p then
      firstOf true (body p (greedyRounds body least most next rounds (count + 1) (some p))) (next p)
    else next p

/-- Repeats as seldom as possible, with more rounds as later choices. -/
def reluctantRounds (inner : Bool) (body : Nat → Next → Search) (least : Nat) (most : Option Nat) (next : Next) :
    (rounds count : Nat) → (last : Option Nat) → Next
  | 0, _, _, p => next p
  | rounds + 1, count, last, p =>
    if count < least then body p (reluctantRounds inner body least most next rounds (count + 1) last)
    else
      firstOf inner (next p)
        (if mayRepeat most count last p then
          body p (reluctantRounds inner body least most next rounds (count + 1) (some p))
        else return none)

/-- Repeats as often as possible, each round by its first way only. -/
def possessiveRounds (body : Next) (least : Nat) (most : Option Nat) :
    (rounds count : Nat) → (last : Option Nat) → Next
  | 0, _, _, p => return some p
  | rounds + 1, count, last, p => do
    if count < least then
      match ← body p with
      | some q => possessiveRounds body least most rounds (count + 1) last q
      | none => return none
    else if mayRepeat most count last p then
      match ← attempt true (body p) with
      | some q => possessiveRounds body least most rounds (count + 1) (some p) q
      | none => return some p
    else return some p

/-! ## Expressions -/

/-- Ends a search with success. -/
def succeed : Next := fun p => return some p

/-- Whether the `n` characters from `start` on stand again after the place `p`, characters being compared by `same`. -/
def repeats (text : Array Char) (same : Char → Char → Bool) (start p : Nat) : Nat → Bool
  | 0 => true
  | n + 1 =>
    match text[start]?, text[p]? with
    | some c, some d => same c d && repeats text same (start + 1) (p + 1) n
    | _, _ => false

/-- A condition on the text around a place, which a search decides; without one there is not enough text. -/
def condition (inner negated : Bool) (check : Option Search) (next : Search) : Search := do
  if negated then
    match check with
    | none => next
    | some search =>
      let before ← get
      match ← search with
      | some _ => return none
      | none =>
        modify (Marks.restored inner before)
        next
  else
    match check with
    | none => return none
    | some search => if (← search).isSome then next else return none

/-- The first way to match an expression from a place after which `next` succeeds; `inner` says that the expression lies inside a repetition. -/
def Regex.search (text : Array Char) : Regex → (inner : Bool) → Nat → Next → Search
  | .empty, _, p, next => next p
  | .oneOf mode negated items, _, p, next =>
    if passes text (fun c => holdsCharacter mode items c != negated) p then next (p + 1) else return none
  | .any lineFeed, _, p, next =>
    if passes text (fun c => lineFeed || c != '\n') p then next (p + 1) else return none
  | .anchor a, _, p, next => if a.holds text p then next p else return none
  | .seq a b, inner, p, next => a.search text inner p fun q => b.search text inner q next
  | .alt a b, inner, p, next =>
    firstOf inner (a.search text inner p next) (attempt inner (b.search text inner p next))
  | .capture index r, inner, p, next => do
    modify (·.put (2 * index - 2) p)
    r.search text inner p fun q => do
      modify (·.put (2 * index - 1) q)
      next q
  | .repeated greed least most r, inner, p, next =>
    match r.test? with
    | some test => repeatCharacter inner text test greed least most p next
    | none =>
      let rounds := least + text.size + 2
      match greed with
      | .greedy => greedyRounds (fun q k => r.search text true q k) least most next rounds 0 none p
      | .reluctant => reluctantRounds inner (fun q k => r.search text true q k) least most next rounds 0 none p
      | .possessive => do
        match ← possessiveRounds (fun q => r.search text inner q succeed) least most rounds 0 none p with
        | some q => next q
        | none => return none
  | .backref mode index, _, p, next => do
    match (← get).group? index with
    | some (start, stop) =>
      if repeats text mode.same start p (stop - start) then next (p + (stop - start)) else return none
    | none => return none
  | .ahead negated r, inner, p, next =>
    condition inner negated (some (r.search text inner p succeed)) (next p)
  | .behind negated width r, inner, p, next =>
    condition inner negated (if width ≤ p then some (r.search text inner (p - width) succeed) else none) (next p)
  | .atomic r, inner, p, next => do
    match ← r.search text inner p succeed with
    | some q => next q
    | none => return none
  | .ifMatched index yes no, inner, p, next => do
    if ((← get).group? index).isSome then yes.search text inner p next else no.search text inner p next

end ApiDoc.Pattern
