import ApiDoc.Keyed
import ApiDoc.Number.Binary64

/-!
# JSON values

Values of the JSON data format, with whole numbers kept apart from numbers that have a fraction or an exponent. Objects keep their members in order.
-/

namespace ApiDoc

inductive Json where
  | null
  | bool (b : Bool)
  | int (n : Int)
  | float (x : Number.Binary64)
  | str (s : String)
  | arr (items : List Json)
  | obj (members : List (String × Json))
  deriving Inhabited

namespace Json

/-- The member of an object under a name; null when the value is no object or has no such member. -/
def field (key : String) : Json → Json
  | .obj members => (Keyed.get? key members).getD .null
  | _ => .null

/-- The items of an array; none when the value is no array. -/
def list : Json → List Json
  | .arr items => items
  | _ => []

def str? : Json → Option String
  | .str s => some s
  | _ => none

/-- A whole number. Truth values do not count. -/
def int? : Json → Option Int
  | .int n => some n
  | _ => none

def isObject : Json → Bool
  | .obj _ => true
  | _ => false

/-- Whether the value counts as true: null, false, zero and everything empty do not. -/
def isTruthy : Json → Bool
  | .null => false
  | .bool b => b
  | .int n => n != 0
  | .float x => !x.isZero
  | .str s => !s.isEmpty
  | .arr items => !items.isEmpty
  | .obj members => !members.isEmpty

theorem sizeOf_get?_lt {key : String} {members : List (String × Json)} {value : Json}
    (h : Keyed.get? key members = some value) : sizeOf value < sizeOf members := by
  induction members with
  | nil => simp at h
  | cons e rest ih =>
    obtain ⟨k, v⟩ := e
    simp only [Keyed.get?] at h
    split at h
    · simp only [Option.some.injEq] at h
      subst h
      simp
      omega
    · have := ih h
      simp
      omega

theorem sizeOf_field_lt {key : String} {j : Json} (h : j.isObject = true) : sizeOf (j.field key) < sizeOf j := by
  cases j with
  | obj members =>
    simp only [field]
    cases hget : Keyed.get? key members with
    | none =>
      have : 0 < sizeOf members := by
        cases members with
        | nil => simp
        | cons e rest =>
          rw [List.cons.sizeOf_spec]
          omega
      simp
      omega
    | some value =>
      have := sizeOf_get?_lt hget
      simp
      omega
  | _ => simp [isObject] at h

theorem sizeOf_list_lt {j item : Json} (h : item ∈ j.list) : sizeOf item < sizeOf j := by
  cases j with
  | arr items =>
    have := List.sizeOf_lt_of_mem (show item ∈ items from h)
    simp
    omega
  | _ => simp [list] at h

theorem sizeOf_item_lt {key : String} {j item : Json} (h : item ∈ (j.field key).list) : sizeOf item < sizeOf j := by
  have hobject : j.isObject = true := by
    cases j with
    | obj _ => rfl
    | _ => simp [field, list] at h
  have := sizeOf_list_lt h
  have := @sizeOf_field_lt key j hobject
  omega

end Json

end ApiDoc
