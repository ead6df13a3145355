import ApiDoc.Yaml.Node

/-!
# Reading documents

The value of a document, from the tree of its nodes. An empty document stands for nothing. Of two entries with the same key, the place of the first and the value of the last count. Entries that another mapping brings in come before the entries of a mapping itself.

A document can have several faults. The one that is told is the one that is found level by level, from the top of the tree down.

* `read` gives the value of a text.
-/

namespace ApiDoc.Yaml

/-! ## Entries from other mappings -/

/-- The entries of a node that is to be brought into a mapping. -/
def entriesOf : Node → Except Error (List (Node × Node))
  | .map _ entries => .ok entries
  | _ => .error .malformed

/-- The entries of a mapping with those that it brings in. Of several mappings that are brought in, the last one comes first. The mark of the entry that stands for the whole mapping is just text as a key. -/
def flatten : Nat → List (Node × Node) → Except Error (List (Node × Node))
  | 0, _ => .error .malformed
  | fuel + 1, entries => do
    let parts ← entries.mapM fun (key, value) => do
      match key, value with
      | .scalar .merge _, .list _ items =>
        let lists ← items.mapM fun item => do flatten fuel (← entriesOf item)
        return (lists.reverse.flatten, [])
      | .scalar .merge _, _ => return (← flatten fuel (← entriesOf value), [])
      | .scalar .standard text, _ => return ([], [(Node.scalar .str text, value)])
      | _, _ => return ([], [(key, value)])
    return parts.flatMap Prod.fst ++ parts.flatMap Prod.snd

/-! ## Values -/

/-- The text of a node that is said to be a scalar. A mapping has that of the entry that stands for it. -/
def textOf? : Node → Option (List Char)
  | .scalar _ text => some text
  | .map _ entries =>
    entries.findSome? fun
      | (.scalar .standard _, .scalar _ text) => some text
      | _ => none
  | .list .. => none

/-- Whether a kind is that of a list, a mapping or a set. -/
def Kind.isCollection (k : Kind) : Bool := [.list, .map, .set, .pairs].contains k

/-- The scalar that a node is said to be. -/
def scalarOf (kind : Kind) (n : Node) : Except Error Scalar :=
  match textOf? n with
  | some text => Scalar.make kind text
  | none => .error .malformed

/-- What a node is said to be. -/
def Node.kind : Node → Kind
  | .scalar kind _ | .list kind _ | .map kind _ => kind

/-- A key; only scalars can be keys. -/
def keyOf (n : Node) : Except Error Scalar :=
  if n.kind.isCollection then .error .malformed else scalarOf n.kind n

/-- The only entry of a node in a list of pairs. -/
def pairOf : Node → Except Error (Node × Node)
  | .map _ [entry] => .ok entry
  | _ => .error .malformed

def valueOf : Nat → Node → Except Error Value
  | 0, _ => .error .malformed
  | fuel + 1, n =>
    match n.kind, n with
    | .list, .list _ items => do return .list (← items.mapM (valueOf fuel))
    | .map, .map _ entries => do
      let entries ← flatten fuel entries
      let pairs ← entries.mapM fun (k, v) => do return (← keyOf k, ← valueOf fuel v)
      return .map (pairs.foldl (fun done e => Value.put e.1 e.2 done) [])
    | .set, .map _ entries => do
      let keys ← (← flatten fuel entries).mapM fun (k, _) => keyOf k
      return .set (keys.foldl (fun done k => if done.any (·.sameKey k) then done else done ++ [k]) [])
    | .pairs, .list _ items => do
      let pairs ← items.mapM pairOf
      return .list (← pairs.mapM fun (k, v) => do return .list [← valueOf fuel k, ← valueOf fuel v])
    | kind, _ => if kind.isCollection then .error .malformed else do return .scalar (← scalarOf kind n)

/-! ## Which fault is told -/

/-- The fault of a node that shows without looking into it. -/
def faultAt (n : Node) : Except Error Unit :=
  if n.kind.isCollection then .ok () else (scalarOf n.kind n).map fun _ => ()

/-- Looks at the parts of a node in order, and gives those that are to be looked into. -/
def look (fuel : Nat) (n : Node) : Except Error (List Node) :=
  match n.kind, n with
  | .list, .list _ items => do
    items.forM faultAt
    return items
  | .map, .map _ entries | .set, .map _ entries => do
    let entries ← flatten fuel entries
    entries.forM fun (k, v) => do
      let _ ← keyOf k
      faultAt v
    return entries.map Prod.snd
  | .pairs, .list _ items => do
    let pairs ← items.mapM fun item => do
      let (k, v) ← pairOf item
      faultAt k
      faultAt v
      return [k, v]
    return pairs.flatten
  | kind, _ => if kind.isCollection then .error .malformed else .ok []

/-- Looks for a fault, level by level, with at most `fuel` levels. -/
def search : Nat → List Node → Except Error Unit
  | 0, _ => .ok ()
  | _ + 1, [] => .ok ()
  | fuel + 1, level => do
    let next ← level.mapM (look fuel)
    search fuel next.flatten

/-- The value of the only document of a text. -/
def read (text : List Char) : Except Error Value := do
  let (root, fuel) ← composeDocument text
  match root with
  | none => return .null
  | some root =>
    faultAt root
    search fuel [root]
    valueOf fuel root

end ApiDoc.Yaml
