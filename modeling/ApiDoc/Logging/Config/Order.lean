import ApiDoc.Logging.Config.Item

/-!
# The order of names

Handlers are made in the order of their names. Names of the same kind can be compared, and so can numbers of all kinds; other names cannot.

* `sortNames` puts names in order, and tells of the first two that cannot be compared.
-/

namespace ApiDoc.Logging

open Yaml (Scalar)
open Number (Binary64)

/-- The number that a scalar is, as a quotient. -/
def quotientOf? : Scalar → Option (Int × Nat)
  | .bool b => some (if b then 1 else 0, 1)
  | .int n => some (n, 1)
  | .float (.finite negative m e) =>
    let (num, den) := Binary64.quotient m e
    some (Binary64.signed negative num, den)
  | _ => none

def isNumber : Scalar → Bool
  | .bool _ | .int _ | .float _ => true
  | _ => false

def numberLess (a b : Scalar) : Bool :=
  match quotientOf? a, quotientOf? b with
  | some (m, d), some (n, e) => m * e < n * d
  | some _, none => b == .float (.infinite false)
  | none, some _ => a == .float (.infinite true)
  | none, none => a == .float (.infinite true) && b == .float (.infinite false)

/-- Whether one name comes before another one; if they cannot be compared, what they are called. -/
def namesLess (a b : ConfigItem) : Except (String × String) Bool :=
  match a, b with
  | .text s, .text t => .ok (s < t)
  | .scalar (.binary s), .scalar (.binary t) => .ok (s < t)
  | .scalar s, .scalar t =>
    if isNumber s && isNumber t then .ok (numberLess s t) else .error (s.kindName, t.kindName)
  | _, _ => .error (a.kindName, b.kindName)

/-- The length of the run in order at the front, after a name, and whether it goes down. -/
def runFrom (down : Bool) (last : ConfigItem) : List ConfigItem → Except (String × String) Nat
  | [] => .ok 0
  | next :: rest => do
    if (← namesLess next last) == down then return (← runFrom down next rest) + 1 else return 0

/-- Where a name belongs in a sorted row between two positions, after its equals. Each step halves the distance. -/
def placeIn (name : ConfigItem) (row : List ConfigItem) : Nat → Nat → Nat → Except (String × String) Nat
  | 0, low, _ => .ok low
  | fuel + 1, low, high =>
    if low ≥ high then .ok low
    else do
      let middle := low + (high - low) / 2
      if ← namesLess name (row.getD middle .null) then placeIn name row fuel low middle
      else placeIn name row fuel (middle + 1) high

/-- Puts a name into a sorted row. -/
def insertName (row : List ConfigItem) (name : ConfigItem) : Except (String × String) (List ConfigItem) := do
  let place ← placeIn name row (row.length + 1) 0 row.length
  return row.take place ++ name :: row.drop place

/-- Names in order. The run in order at the front is taken as it is, or turned round, and the other names are put in one by one. -/
def sortNames : List ConfigItem → Except (String × String) (List ConfigItem)
  | first :: second :: rest => do
    let down ← namesLess second first
    let more ← runFrom down second rest
    let run := first :: second :: rest.take more
    (rest.drop more).foldlM insertName (if down then run.reverse else run)
  | names => .ok names

end ApiDoc.Logging
