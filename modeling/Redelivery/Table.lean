/-!
# Table

Finite tables that list their keys in the order in which they were first set.  The view is
`get?`, and `get?_set` says what a change does to it.
-/

namespace Redelivery

/-- A table as its keys and values. -/
structure Table (κ ν : Type) where
  entries : List (κ × ν)
  deriving DecidableEq

namespace Table

variable {κ ν : Type} [DecidableEq κ]

/-- The table without keys. -/
def empty : Table κ ν := ⟨[]⟩

/-- The value of a key in a list of keys and values. -/
def find? (k : κ) : List (κ × ν) → Option ν
  | [] => none
  | (a, v) :: rest => if a = k then some v else find? k rest

/-- The list with a value for a key: in its place if there is one, else at the end. -/
def put (k : κ) (v : ν) : List (κ × ν) → List (κ × ν)
  | [] => [(k, v)]
  | (a, w) :: rest => if a = k then (a, v) :: rest else (a, w) :: put k v rest

/-- The value of a key. -/
def get? (t : Table κ ν) (k : κ) : Option ν := find? k t.entries

/-- The table with a value for a key. -/
def set (t : Table κ ν) (k : κ) (v : ν) : Table κ ν := ⟨put k v t.entries⟩

/-- The keys, in the order in which they were first set. -/
def keys (t : Table κ ν) : List κ := t.entries.map Prod.fst

omit [DecidableEq κ] in
theorem keys_empty : (empty : Table κ ν).keys = [] := rfl

theorem get?_empty (k : κ) : (empty : Table κ ν).get? k = none := rfl

theorem find?_put (k a : κ) (v : ν) (l : List (κ × ν)) :
    find? a (put k v l) = if a = k then some v else find? a l := by
  induction l with
  | nil => simp [put, find?, eq_comm]
  | cons e l ih =>
      obtain ⟨b, w⟩ := e
      by_cases hb : b = k
      · subst hb
        by_cases ha : a = b
        · simp [put, find?, ha]
        · simp [put, find?, ha, Ne.symm ha]
      · by_cases ha : b = a
        · subst ha; simp [put, find?, hb]
        · simp [put, find?, hb, ha, ih]

theorem get?_set (t : Table κ ν) (k a : κ) (v : ν) :
    (t.set k v).get? a = if a = k then some v else t.get? a :=
  find?_put k a v t.entries

theorem mem_keys_iff (t : Table κ ν) (k : κ) : k ∈ t.keys ↔ (t.get? k).isSome := by
  unfold keys get?
  induction t.entries with
  | nil => simp [find?]
  | cons e l ih =>
      obtain ⟨b, w⟩ := e
      by_cases hb : b = k
      · simp [find?, hb]
      · simp [find?, hb, Ne.symm hb, ih]

end Table

end Redelivery
