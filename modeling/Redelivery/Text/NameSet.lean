/-!
# Text — NameSet

Finite sets of names, listed in increasing order (by code points, which is also the order of
their UTF-8 bytes).  The view is membership: `mem_insert`, `mem_erase` and `mem_ofList` say what
each operation does to it.
-/

namespace Redelivery

/-- A set of names in increasing order. -/
structure NameSet where
  names : List String
  deriving Repr, DecidableEq

namespace NameSet

/-- The set without names. -/
def empty : NameSet := ⟨[]⟩

/-- A name put in its place in an increasing list, unless it is there. -/
def insertSorted (a : String) : List String → List String
  | [] => [a]
  | b :: bs => if a < b then a :: b :: bs else if a = b then b :: bs else b :: insertSorted a bs

/-- The set with one more name. -/
def insert (s : NameSet) (a : String) : NameSet := ⟨insertSorted a s.names⟩

/-- The set without a name. -/
def erase (s : NameSet) (a : String) : NameSet := ⟨s.names.filter (· ≠ a)⟩

/-- The set with all names of a list added. -/
def insertAll (s : NameSet) (as : List String) : NameSet := as.foldl insert s

/-- The set of the names of a list. -/
def ofList (as : List String) : NameSet := empty.insertAll as

/-- Whether a name belongs to the set. -/
def contains (s : NameSet) (a : String) : Bool := s.names.contains a

/-- Whether the set is empty. -/
def isEmpty (s : NameSet) : Bool := s.names.isEmpty

instance : Membership String NameSet := ⟨fun s a => a ∈ s.names⟩

theorem contains_iff {s : NameSet} {a : String} : s.contains a = true ↔ a ∈ s := by
  simp [contains, Membership.mem]

theorem not_mem_empty (a : String) : ¬ a ∈ empty := List.not_mem_nil

theorem mem_insertSorted {a x : String} {l : List String} :
    x ∈ insertSorted a l ↔ x = a ∨ x ∈ l := by
  induction l with
  | nil => simp [insertSorted]
  | cons b bs ih =>
      rw [insertSorted]
      split
      · simp
      · split
        · rename_i h; subst h; simp
        · simp only [List.mem_cons, ih]
          exact or_left_comm

theorem mem_insert {s : NameSet} {a x : String} : x ∈ s.insert a ↔ x = a ∨ x ∈ s :=
  mem_insertSorted

theorem mem_erase {s : NameSet} {a x : String} : x ∈ s.erase a ↔ x ≠ a ∧ x ∈ s := by
  show x ∈ s.names.filter (· ≠ a) ↔ x ≠ a ∧ x ∈ s.names
  simp [and_comm]

theorem mem_insertAll {as : List String} {s : NameSet} {x : String} :
    x ∈ s.insertAll as ↔ x ∈ as ∨ x ∈ s := by
  induction as generalizing s with
  | nil => simp [insertAll]
  | cons a as ih =>
      have : s.insertAll (a :: as) = (s.insert a).insertAll as := rfl
      rw [this, ih, mem_insert, List.mem_cons]
      constructor
      · rintro (h | h | h)
        · exact .inl (.inr h)
        · exact .inl (.inl h)
        · exact .inr h
      · rintro ((h | h) | h)
        · exact .inr (.inl h)
        · exact .inl h
        · exact .inr (.inr h)

theorem mem_ofList {as : List String} {x : String} : x ∈ ofList as ↔ x ∈ as := by
  rw [ofList, mem_insertAll]
  exact or_iff_left (not_mem_empty x)

end NameSet

end Redelivery
