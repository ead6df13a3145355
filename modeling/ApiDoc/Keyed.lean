/-!
# Keyed lists

Lists of named values in the order in which the names first appeared. Writing to a name that is there already replaces its value and keeps its place.
-/

namespace ApiDoc

/-- Named values in order of first appearance. -/
abbrev Keyed (α : Type) := List (String × α)

namespace Keyed

variable {α β : Type}

def get? (key : String) : Keyed α → Option α
  | [] => none
  | (k, v) :: rest => if k = key then some v else get? key rest

/-- Writes a value under a name, in place if the name is there and at the end otherwise. -/
def put (key : String) (value : α) : Keyed α → Keyed α
  | [] => [(key, value)]
  | (k, v) :: rest => if k = key then (k, value) :: rest else (k, v) :: put key value rest

def ofList (entries : List (String × α)) : Keyed α := entries.foldl (fun acc e => put e.1 e.2 acc) []

def keys (m : Keyed α) : List String := m.map Prod.fst

@[simp] theorem get?_nil (key : String) : get? key ([] : Keyed α) = none := rfl

theorem get?_put (key other : String) (value : α) (m : Keyed α) :
    get? other (put key value m) = if key = other then some value else get? other m := by
  induction m with
  | nil => simp [put, get?]
  | cons e rest ih =>
    obtain ⟨k, v⟩ := e
    by_cases hk : k = key
    · subst hk
      by_cases ho : k = other <;> simp [put, get?, ho]
    · by_cases ho : k = other
      · subst ho
        simp [put, get?, hk, Ne.symm hk]
      · simp [put, get?, hk, ho, ih]

end Keyed

end ApiDoc
