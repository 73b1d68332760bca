/-!
# Ordered entries

A list of pairs read as a table: the first pair with a key gives its value, and
a key that is put again keeps its place.  The order of the pairs is the order in
which the keys were first put, and it shows wherever a table is written out.
-/

namespace EventCanvas

/-- A table as a list of keys and values in the order of insertion. -/
abbrev Entries (κ α : Type) := List (κ × α)

namespace Entries

variable {κ α β : Type} [BEq κ]

/-- The value under a key. -/
def lookup (k : κ) : Entries κ α → Option α
  | [] => none
  | (l, a) :: es => if k == l then some a else lookup k es

/-- Whether a key is present. -/
def has (k : κ) (es : Entries κ α) : Bool := (lookup k es).isSome

/-- Puts a value under a key, in the key's place if it has one and at the end otherwise. -/
def put (k : κ) (a : α) : Entries κ α → Entries κ α
  | [] => [(k, a)]
  | (l, b) :: es => if k == l then (l, a) :: es else (l, b) :: put k a es

/-- Puts a value under a key that is not there yet. -/
def putNew (k : κ) (a : α) (es : Entries κ α) : Entries κ α :=
  if has k es then es else es ++ [(k, a)]

/-- Takes a key out. -/
def remove (k : κ) (es : Entries κ α) : Entries κ α := es.filter fun e => !(k == e.1)

/-- Puts every entry of the second table into the first, in order. -/
def merge (es changes : Entries κ α) : Entries κ α :=
  changes.foldl (fun acc e => put e.1 e.2 acc) es

/-- The table of a list of pairs: the last value of a key, in the place of its first. -/
def ofPairs (pairs : List (κ × α)) : Entries κ α := merge [] pairs

/-- The keys in order. -/
def keys (es : Entries κ α) : List κ := es.map (·.1)

/-! ## Reading what was written -/

@[simp] theorem lookup_nil (k : κ) : lookup k ([] : Entries κ α) = none := rfl

theorem lookup_cons (k l : κ) (a : α) (es : Entries κ α) :
    lookup k ((l, a) :: es) = if k == l then some a else lookup k es := rfl

variable [LawfulBEq κ]

@[simp] theorem lookup_put_self (k : κ) (a : α) (es : Entries κ α) :
    lookup k (put k a es) = some a := by
  induction es with
  | nil => simp [put, lookup]
  | cons e es ih =>
    obtain ⟨l, b⟩ := e
    by_cases h : k = l
    · simp [put, lookup, h]
    · simp [put, lookup, h, ih]

theorem lookup_put_of_ne {j k : κ} (h : j ≠ k) (a : α) (es : Entries κ α) :
    lookup j (put k a es) = lookup j es := by
  induction es with
  | nil => simp [put, lookup, h]
  | cons e es ih =>
    obtain ⟨l, b⟩ := e
    by_cases hk : k = l
    · subst hk
      simp [put, lookup, h]
    · simp [put, lookup, hk, ih]

end Entries

end EventCanvas
