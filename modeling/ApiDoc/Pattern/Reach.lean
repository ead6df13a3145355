import ApiDoc.Pattern.CharacterSet
import Std.Data.HashMap
import Std.Data.HashSet

/-!
# The places an expression reaches

Where no part of an expression asks for a group, what matters of a way is only the place where it ends, and two ways to one place are as good as one. `Regex.reach` lists the places that an expression reaches from given ones, each once, in order of preference; the preference decides where only the first way counts.
-/

namespace ApiDoc.Pattern

/-- Places without repetition, the latest first. -/
structure Places where
  latest : List Nat
  known : Std.HashSet Nat

namespace Places

def empty : Places := ⟨[], ∅⟩

def add (ps : Places) (p : Nat) : Places :=
  if ps.known.contains p then ps else ⟨p :: ps.latest, ps.known.insert p⟩

def addAll (ps : Places) (places : List Nat) : Places := places.foldl add ps

/-- The places in the order in which they were added. -/
def toList (ps : Places) : List Nat := ps.latest.reverse

end Places

/-- The places that a step reaches from each of the given ones in turn, each once. -/
def reachFrom (step : Nat → List Nat) (starts : List Nat) : List Nat :=
  (starts.foldl (fun found p => found.addAll (step p)) Places.empty).toList

/-! ## Repetitions of one character -/

/-- Adds the places from `p` to `p + n`, the last one first. -/
def addDown (p : Nat) : Nat → Places → Places
  | 0, found => found.add p
  | n + 1, found => addDown p n (found.add (p + n + 1))

/-- Adds the places from `p` to `p + n`, the first one first. -/
def addUp : Nat → (n : Nat) → Places → Places
  | p, 0, found => found.add p
  | p, n + 1, found => addUp (p + 1) n (found.add p)

/-- Adds the places that repetitions of a character that passes a test reach from a place. -/
def addRun (text : Array Char) (test : Char → Bool) (greed : Greed) (least : Nat) (most : Option Nat)
    (found : Places) (p : Nat) : Places :=
  let needed := runEnd text test (min least (text.size + 1)) p
  let stop := runEnd text test (extraRounds text least most) needed
  if needed - p < least then found
  else match greed with
    | .greedy => addDown needed (stop - needed) found
    | .reluctant => addUp needed (stop - needed) found
    | .possessive => found.add stop

/-! ## Repetitions of an expression -/

/-- Takes a number of rounds, or fewer once a round changes nothing more. -/
def settle (round : List Nat → List Nat) : Nat → List Nat → List Nat
  | 0, places => places
  | n + 1, places =>
    let after := round places
    if after == places then places else settle round n after

/-- Places found so far, and with how many rounds left each place has been visited. -/
structure Visits where
  found : Places
  left : Std.HashMap Nat Nat

def Visits.add (v : Visits) (p : Nat) : Visits := { v with found := v.found.add p }

/-- Visits a place of a text of a given size with some rounds left, unless it has been visited with as many. A round that stays at the place ends there, so no more rounds matter than there are characters left, and one. -/
def visit (size : Nat) (round : Nat → List Nat) (greedy : Bool) : Nat → Visits → Nat → Visits
  | 0, v, p => v.add p
  | left + 1, v, p =>
    let useful := min (left + 1) (size + 1 - p)
    if useful ≤ v.left.getD p 0 then v
    else
      let v := { v with left := v.left.insert p useful }
      let v := if greedy then v else v.add p
      ((round p).foldl (fun v q => if q == p then v.add p else visit size round greedy left v q) v).add p

/-- Repeats the first way of a round, at most a number of times and while it moves on. -/
def insist (round : Nat → Option Nat) : Nat → Nat → Nat
  | 0, p => p
  | n + 1, p =>
    match round p with
    | none => p
    | some q => if q == p then p else insist round n q

/-- Takes the first way of a round a number of times. -/
def insistNeeded (round : Nat → Option Nat) : Nat → Nat → Option Nat
  | 0, p => some p
  | n + 1, p =>
    match round p with
    | none => none
    | some q => if q == p then some p else insistNeeded round n q

/-- The places that repetitions of an expression reach, given those of one round. -/
def reachRounds (text : Array Char) (round : Nat → List Nat) (greed : Greed) (least : Nat) (most : Option Nat)
    (starts : List Nat) : List Nat :=
  let extra := extraRounds text least most
  match greed with
  | .possessive =>
    let first (p : Nat) := (round p).head?
    reachFrom (fun p => ((insistNeeded first least p).map (insist first extra)).toList) starts
  | .greedy | .reluctant =>
    let needed := settle (reachFrom round) least starts
    (needed.foldl (visit text.size round (greed == .greedy) extra) ⟨Places.empty, ∅⟩).found.toList

/-! ## Expressions -/

/-- The places that an expression reaches from given ones. Expressions that ask for a group are not covered. -/
def Regex.reach (text : Array Char) : Regex → List Nat → List Nat
  | .empty, starts => starts
  | .oneOf mode negated items, starts =>
    (starts.filter (passes text fun c => holdsCharacter mode items c != negated)).map (· + 1)
  | .any lineFeed, starts => (starts.filter (passes text fun c => lineFeed || c != '\n')).map (· + 1)
  | .anchor a, starts => starts.filter fun p => a.holds text p
  | .seq a b, starts => b.reach text (a.reach text starts)
  | .alt a b, starts => reachFrom (fun p => a.reach text [p] ++ b.reach text [p]) starts
  | .capture _ r, starts => r.reach text starts
  | .repeated greed least most r, starts =>
    match r.test? with
    | some test => (starts.foldl (addRun text test greed least most) Places.empty).toList
    | none => reachRounds text (fun p => r.reach text [p]) greed least most starts
  | .ahead negated r, starts => starts.filter fun p => (r.reach text [p]).isEmpty == negated
  | .behind negated width r, starts =>
    starts.filter fun p => (width ≤ p && !(r.reach text [p - width]).isEmpty) != negated
  | .atomic r, starts => reachFrom (fun p => (r.reach text [p]).head?.toList) starts
  | .backref .., _ | .ifMatched .., _ => []

end ApiDoc.Pattern
