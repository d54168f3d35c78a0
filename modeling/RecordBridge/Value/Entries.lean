/-
# Ordered entries

An object is a list of entries in the order in which its keys were first
given.  Giving a key again replaces its value and keeps its place; `ofList`
reads a list of pairs by that rule.
-/

namespace RecordBridge

/-- Entries of an object, in order. -/
abbrev Entries (α : Type) := List (String × α)

namespace Entries

variable {α : Type}

/-- The value of a key. -/
def get? : Entries α → String → Option α
  | [], _ => none
  | (k, v) :: es, key => if key = k then some v else get? es key

/-- Whether there is an entry for a key. -/
def has (es : Entries α) (key : String) : Bool := (es.get? key).isSome

/-- The keys, in order. -/
def keys (es : Entries α) : List String := es.map (·.1)

/-- The entries with a key set to a value: in its place if it has one, at the
end otherwise. -/
def set : Entries α → String → α → Entries α
  | [], key, value => [(key, value)]
  | (k, v) :: es, key, value =>
    if k = key then (k, value) :: es else (k, v) :: set es key value

/-- The entries without a key. -/
def erase (es : Entries α) (key : String) : Entries α := es.filter (·.1 ≠ key)

/-- The entries that a list of pairs amounts to. -/
def ofList (pairs : List (String × α)) : Entries α :=
  pairs.foldl (fun es p => es.set p.1 p.2) []

/-- No key is found among no entries. -/
@[simp] theorem get?_nil (key : String) : get? ([] : Entries α) key = none := rfl

/-- The first entry answers for its own key only. -/
theorem get?_cons (k : String) (v : α) (es : Entries α) (key : String) :
    get? ((k, v) :: es) key = if key = k then some v else get? es key := rfl

/-- What was set is found. -/
theorem get?_set_self (es : Entries α) (key : String) (value : α) :
    get? (set es key value) key = some value := by
  induction es with
  | nil => simp [set, get?_cons]
  | cons e es ih =>
    obtain ⟨k, v⟩ := e
    by_cases h : k = key
    · simp [set, h, get?_cons]
    · simp [set, h, get?_cons, ih, Ne.symm h]

/-- Setting a key leaves the other keys alone. -/
theorem get?_set_of_ne (es : Entries α) {key other : String} (value : α) (h : other ≠ key) :
    get? (set es key value) other = get? es other := by
  induction es with
  | nil => simp [set, get?_cons, h]
  | cons e es ih =>
    obtain ⟨k, v⟩ := e
    by_cases hk : k = key
    · subst hk; simp [set, get?_cons, h]
    · simp [set, hk, get?_cons, ih]

end Entries

end RecordBridge
