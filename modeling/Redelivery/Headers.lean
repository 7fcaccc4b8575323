import Redelivery.Text.Utf8

/-!
# Headers

The headers of a record: keys and values in order, where a key may occur more than once and the
last occurrence counts.  The view is `get?`; `get?_push`, `get?_insert` and `get?_remove` say what
each operation does to it, and `without_insert` that an insertion leaves the order of all other
headers alone.
-/

namespace Redelivery

/-- Headers in order. -/
structure Headers where
  entries : List (String × Bytes)
  deriving DecidableEq

namespace Headers

/-- No headers. -/
def empty : Headers := ⟨[]⟩

/-- The headers other than those under `key`. -/
def without (h : Headers) (key : String) : List (String × Bytes) :=
  h.entries.filter (·.1 ≠ key)

/-- One more header at the end. -/
def push (h : Headers) (key : String) (value : Bytes) : Headers := ⟨h.entries ++ [(key, value)]⟩

/-- One header under `key`, at the end, in place of all earlier ones. -/
def insert (h : Headers) (key : String) (value : Bytes) : Headers :=
  ⟨h.without key ++ [(key, value)]⟩

/-- No header under `key`. -/
def remove (h : Headers) (key : String) : Headers := ⟨h.without key⟩

/-- The last value under `key`. -/
def get? (h : Headers) (key : String) : Option Bytes :=
  (h.entries.reverse.find? (·.1 = key)).map Prod.snd

/-- The last value under `key`, if it is text. -/
def text? (h : Headers) (key : String) : Option String := (h.get? key).bind Utf8.decode?

/-- How many headers there are. -/
def size (h : Headers) : Nat := h.entries.length

theorem get?_push (h : Headers) (key k : String) (v : Bytes) :
    (h.push key v).get? k = if k = key then some v else h.get? k := by
  by_cases e : key = k
  · simp [get?, push, e]
  · simp [get?, push, e, Ne.symm e]

theorem get?_remove (h : Headers) (key k : String) :
    (h.remove key).get? k = if k = key then none else h.get? k := by
  simp only [get?, remove, without, ← List.filter_reverse]
  generalize h.entries.reverse = l
  induction l with
  | nil => simp
  | cons a l ih =>
      by_cases ha : a.1 = key
      · by_cases hk : k = key
        · subst hk; simp [ha] at ih ⊢
        · have : ¬ key = k := fun e => hk e.symm
          simpa [ha, hk, this] using ih
      · by_cases hk : a.1 = k
        · subst hk; simp [ha]
        · simpa [ha, hk] using ih

theorem get?_insert (h : Headers) (key k : String) (v : Bytes) :
    (h.insert key v).get? k = if k = key then some v else h.get? k := by
  have : h.insert key v = (h.remove key).push key v := rfl
  rw [this, get?_push, get?_remove]
  split <;> rfl

theorem without_insert (h : Headers) (key k : String) (v : Bytes) :
    (h.insert key v).without k =
      if k = key then h.without key else (h.remove key).without k ++ [(key, v)] := by
  by_cases e : k = key
  · subst e; simp [without, insert, List.filter_append]
  · have : ¬ key = k := fun e' => e e'.symm
    simp [without, insert, remove, List.filter_append, e, this]

end Headers

end Redelivery
