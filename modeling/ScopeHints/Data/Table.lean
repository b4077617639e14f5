/-! Tables that keep their keys in the order in which they were first written. -/
namespace ScopeHints

/-- An insertion-ordered table. `insert` keeps the place of a key that is already there. -/
structure Table (κ α : Type) where
  entries : List (κ × α) := []
  deriving Repr, Inhabited

namespace Table
variable {κ α : Type} [DecidableEq κ]

def lookupIn (k : κ) : List (κ × α) → Option α
  | [] => none
  | (j, a) :: rest => if j = k then some a else lookupIn k rest

/-- Writes a value in place of the first one under the key, or at the end. -/
def insertIn (k : κ) (a : α) : List (κ × α) → List (κ × α)
  | [] => [(k, a)]
  | (j, b) :: rest => if j = k then (k, a) :: rest else (j, b) :: insertIn k a rest

def empty : Table κ α := ⟨[]⟩

def get? (t : Table κ α) (k : κ) : Option α := lookupIn k t.entries

def contains (t : Table κ α) (k : κ) : Bool := (t.get? k).isSome

def insert (t : Table κ α) (k : κ) (a : α) : Table κ α := ⟨insertIn k a t.entries⟩

def insertNew (t : Table κ α) (k : κ) (a : α) : Table κ α :=
  if t.contains k then t else ⟨t.entries ++ [(k, a)]⟩

def erase (t : Table κ α) (k : κ) : Table κ α :=
  ⟨t.entries.filter fun e => e.1 ≠ k⟩

omit [DecidableEq κ] in
def keys (t : Table κ α) : List κ := t.entries.map Prod.fst

omit [DecidableEq κ] in
def values (t : Table κ α) : List α := t.entries.map Prod.snd

omit [DecidableEq κ] in
def size (t : Table κ α) : Nat := t.entries.length

/-- The table in which the later of two entries with one key wins, in the place of the earlier. -/
def ofList (entries : List (κ × α)) : Table κ α :=
  entries.foldl (fun t (k, a) => t.insert k a) empty

theorem lookupIn_insertIn_self (k : κ) (a : α) (l : List (κ × α)) :
    lookupIn k (insertIn k a l) = some a := by
  induction l with
  | nil => simp [insertIn, lookupIn]
  | cons e l ih =>
    by_cases h : e.1 = k
    · simp [insertIn, lookupIn, h]
    · simp [insertIn, lookupIn, h, ih]

theorem lookupIn_insertIn_of_ne {j k : κ} (h : k ≠ j) (a : α) (l : List (κ × α)) :
    lookupIn j (insertIn k a l) = lookupIn j l := by
  induction l with
  | nil => simp [insertIn, lookupIn, h]
  | cons e l ih =>
    by_cases hk : e.1 = k
    · simp [insertIn, lookupIn, hk, h]
    · simp [insertIn, lookupIn, hk, ih]

@[simp] theorem get?_insert_self (t : Table κ α) (k : κ) (a : α) :
    (t.insert k a).get? k = some a :=
  lookupIn_insertIn_self k a t.entries

theorem get?_insert_of_ne (t : Table κ α) {j k : κ} (h : k ≠ j) (a : α) :
    (t.insert k a).get? j = t.get? j :=
  lookupIn_insertIn_of_ne h a t.entries

end Table

end ScopeHints
