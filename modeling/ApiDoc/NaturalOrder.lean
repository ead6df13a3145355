import ApiDoc.Number.DigitLimit

/-!
# Natural order of names

Names are compared chunk by chunk, where a maximal run of ASCII digits is a chunk of its own that counts by its value. `naturalKey` gives the chunks of a name, `Key.compare` their order.

A number stands among texts as the text `0` does, and numbers of one value are told apart by how they are written.
-/

namespace ApiDoc.NaturalOrder

/-- A chunk of a name: `text` and `digits` are compared as texts, and `value` as a number between them. -/
structure Chunk where
  text : String
  value : Nat
  digits : String
  deriving DecidableEq, Repr, Inhabited

abbrev Key := List Chunk

/-- Compares texts character by character, by code point; a text that ends first is smaller. -/
def compareChars : List Char → List Char → Ordering
  | [], [] => .eq
  | [], _ :: _ => .lt
  | _ :: _, [] => .gt
  | c :: cs, d :: ds => (compare c.toNat d.toNat).then (compareChars cs ds)

def compareText (a b : String) : Ordering := compareChars a.toList b.toList

/-- Compares chunks by text, then value, then digits. -/
def Chunk.compare (a b : Chunk) : Ordering :=
  (compareText a.text b.text).then ((Ord.compare a.value b.value).then (compareText a.digits b.digits))

/-- Compares keys chunk by chunk; a key that ends first is smaller. -/
def Key.compare : Key → Key → Ordering
  | [], [] => .eq
  | [], _ :: _ => .lt
  | _ :: _, [] => .gt
  | a :: as, b :: bs => (a.compare b).then (Key.compare as bs)

/-- The maximal runs of characters that are all digits or all not. -/
def runs : List Char → List (List Char)
  | [] => []
  | c :: cs =>
    match runs cs with
    | (d :: ds) :: rest => if c.isDigit = d.isDigit then (c :: d :: ds) :: rest else [c] :: (d :: ds) :: rest
    | _ => [[c]]

/-- The chunk of a run. -/
def chunk (run : List Char) : Except Number.TooManyDigits Chunk :=
  if run.all Char.isDigit then
    (Number.readDigits run).map fun n => ⟨"0", n, String.ofList run⟩
  else .ok ⟨String.ofList run, 0, ""⟩

/-- The chunks of a name. A run of too many digits is refused. -/
def naturalKey (name : String) : Except Number.TooManyDigits Key := (runs name.toList).mapM chunk

/-- Pairs each value with its key; the first name that has none is the fault. -/
def withKeys {α κ : Type} (key : α → Except Number.TooManyDigits κ) (xs : List α) :
    Except Number.TooManyDigits (List (κ × α)) :=
  xs.mapM fun x => (key x).map fun k => (k, x)

/-- Sorts values by their keys; values with equal keys keep their order. -/
def sortBy {α κ : Type} (key : α → Except Number.TooManyDigits κ) (order : κ → κ → Ordering) (xs : List α) :
    Except Number.TooManyDigits (List α) :=
  (withKeys key xs).map fun pairs => (pairs.mergeSort fun a b => order a.1 b.1 != .gt).map Prod.snd

/-- Sorts names naturally. -/
def sortNames (names : List String) : Except Number.TooManyDigits (List String) :=
  sortBy naturalKey Key.compare names

end ApiDoc.NaturalOrder
