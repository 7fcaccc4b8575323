import Mathlib.Data.List.Induction
import Redelivery.RetryState

/-!
# RetryState — what the headers of a record carry

A state that is written into headers puts a text under the key of each value that it has
(`RetryState.text?`), in place of all that stood there (`holds_apply`), and leaves the headers
under other keys as they are (`foreign_apply`).  It does not matter what the headers held before,
which may be no state, or a part of one, or no text at all.

**All headers** (`entries_apply`).  What is written stands at the end of the headers, and what it
replaces (`RetryState.Replaces`) is gone from among the others.  Of the values that a state lacks
only a due time is removed.  A failure gives the state all of its values, so that each key stands
once in the headers of a copy (`count_nextHop`).
-/

namespace Redelivery

namespace Headers

/-- The headers that hold no part of a retry state. -/
def foreign (h : Headers) : List (String × Bytes) :=
  h.entries.filter fun x => x.1 ∉ RetryHeader.all.map RetryHeader.key

/-- How many headers there are under a key. -/
def count (h : Headers) (key : String) : Nat := (h.entries.map Prod.fst).count key

/-- There is one header under a key, with a certain value. -/
structure Holds (h : Headers) (key : String) (value : Bytes) : Prop where
  get? : h.get? key = some value
  count : h.count key = 1

theorem count_remove (h : Headers) (key k : String) :
    (h.remove key).count k = if k = key then 0 else h.count k := by
  simp only [count, remove, without, List.count, List.countP_map, List.countP_filter]
  split
  · rename_i e
    refine List.countP_eq_zero.mpr fun x _ => ?_
    simp [e]
  · rename_i e
    refine List.countP_congr fun x _ => ?_
    simp only [Function.comp_apply, beq_iff_eq, Bool.and_eq_true, decide_eq_true_eq]
    exact ⟨fun h => h.1, fun h => ⟨h, h ▸ e⟩⟩

theorem count_insert (h : Headers) (key k : String) (v : Bytes) :
    (h.insert key v).count k = if k = key then 1 else h.count k := by
  have hi : (h.insert key v).count k = (h.remove key).count k + [key].count k := by
    simp [count, insert, remove, List.count_append]
  rw [hi, count_remove, List.count_singleton]
  by_cases e : k = key
  · simp [e]
  · simp [e, Ne.symm e]

theorem holds_insert_self (h : Headers) (key : String) (v : Bytes) :
    (h.insert key v).Holds key v where
  get? := by rw [get?_insert, if_pos rfl]
  count := by rw [count_insert, if_pos rfl]

theorem Holds.insert {h : Headers} {k : String} {w : Bytes} (hk : h.Holds k w) {key : String}
    (hne : k ≠ key) (v : Bytes) : (h.insert key v).Holds k w where
  get? := by rw [get?_insert, if_neg hne, hk.get?]
  count := by rw [count_insert, if_neg hne, hk.count]

theorem Holds.remove {h : Headers} {k : String} {w : Bytes} (hk : h.Holds k w) {key : String}
    (hne : k ≠ key) : (h.remove key).Holds k w where
  get? := by rw [get?_remove, if_neg hne, hk.get?]
  count := by rw [count_remove, if_neg hne, hk.count]

theorem foreign_remove (h : Headers) (x : RetryHeader) : (h.remove x.key).foreign = h.foreign := by
  simp only [foreign, remove, without, List.filter_filter]
  refine List.filter_congr fun y _ => ?_
  by_cases e : y.1 = x.key
  · have hmem : y.1 ∈ RetryHeader.all.map RetryHeader.key :=
      e ▸ List.mem_map_of_mem (RetryHeader.mem_all x)
    simp only [hmem, not_true_eq_false, decide_false, Bool.false_and]
  · simp [e]

theorem foreign_insert (h : Headers) (x : RetryHeader) (v : Bytes) :
    (h.insert x.key v).foreign = h.foreign := by
  have happend : (h.insert x.key v).foreign =
      (h.remove x.key).foreign ++ foreign ⟨[(x.key, v)]⟩ := by
    simp only [foreign, insert, remove, List.filter_append]
  have hnew : foreign ⟨[(x.key, v)]⟩ = [] :=
    List.filter_cons_of_neg (by simp [RetryHeader.mem_all])
  rw [happend, hnew, List.append_nil, foreign_remove]

end Headers

theorem RetryHeader.key_ne {x y : RetryHeader} (h : x ≠ y) : x.key ≠ y.key :=
  fun e => h (key_injective e)

namespace RetryState

/-! ### Writing a state -/

/-- The text that a state puts under a header, if it has the value. -/
def text? (s : RetryState) : RetryHeader → Option String
  | .originalTopic => some s.originalTopic
  | .originalPartition => some (toString s.originalPartition.toInt)
  | .originalOffset => some (toString s.originalOffset.toInt)
  | .attempts => some (toString s.attempts.toNat)
  | .firstAttempt => some (toString s.firstAttempt.toInt)
  | .dueAt => s.dueAt.map fun due => toString due.toInt
  | .failureKind => s.failureKind
  | .causeKinds =>
      if s.causeKinds.isEmpty then none else some (String.intercalate "," s.causeKinds)
  | .failureMessage => s.failureMessage

/-- The headers with one value of a state, or without it. -/
def write (s : RetryState) (h : Headers) (x : RetryHeader) : Headers :=
  match s.text? x with
  | some t => put h x t
  | none => if x = .dueAt then h.remove x.key else h

/-- A state is written value by value. -/
theorem apply_eq (s : RetryState) (h : Headers) :
    s.apply h = RetryHeader.all.foldl s.write h := by
  cases hd : s.dueAt <;> cases hk : s.failureKind <;> cases hc : s.causeKinds.isEmpty <;>
    cases hm : s.failureMessage <;>
    simp [apply, RetryHeader.all, write, text?, hd, hk, hc, hm, put?]

variable {s : RetryState} {x : RetryHeader} {t : String}

theorem holds_write_self (ht : s.text? x = some t) (h : Headers) :
    (s.write h x).Holds x.key (Utf8.encode t) := by
  rw [write, ht]
  exact h.holds_insert_self _ _

theorem holds_write {h : Headers} {v : Bytes} (hx : h.Holds x.key v) {y : RetryHeader}
    (hne : x ≠ y) : (s.write h y).Holds x.key v := by
  unfold write
  split
  · exact hx.insert (RetryHeader.key_ne hne) _
  · split
    · exact hx.remove (RetryHeader.key_ne hne)
    · exact hx

theorem foreign_write (s : RetryState) (h : Headers) (x : RetryHeader) :
    (s.write h x).foreign = h.foreign := by
  unfold write
  split
  · exact h.foreign_insert x _
  · split
    · exact h.foreign_remove x
    · rfl

/-- Of values that are written one after the other, each is there in the end. -/
theorem holds_foldl_write (ht : s.text? x = some t) {l : List RetryHeader} {h : Headers}
    (hx : x ∈ l ∨ h.Holds x.key (Utf8.encode t)) :
    (l.foldl s.write h).Holds x.key (Utf8.encode t) := by
  -- on the way a value is still to be written, or it was and no other has replaced it
  induction l generalizing h with
  | nil => exact hx.resolve_left List.not_mem_nil
  | cons y l ih =>
      refine ih ?_
      by_cases e : x = y
      · exact .inr (e ▸ holds_write_self ht h)
      · rcases hx with hx | hx
        · exact .inl ((List.mem_cons.mp hx).resolve_left e)
        · exact .inr (holds_write hx e)

/-- **A value** that the state has is the only one under its key. -/
theorem holds_apply (ht : s.text? x = some t) (h : Headers) :
    (s.apply h).Holds x.key (Utf8.encode t) := by
  rw [apply_eq]
  exact holds_foldl_write ht (.inl x.mem_all)

/-- **Headers under other keys** stay as they are. -/
theorem foreign_apply (s : RetryState) (h : Headers) : (s.apply h).foreign = h.foreign := by
  rw [apply_eq]
  generalize RetryHeader.all = l
  induction l generalizing h with
  | nil => rfl
  | cons x l ih => rw [List.foldl_cons, ih, foreign_write]

theorem text?_apply (ht : s.text? x = some t) (h : Headers) :
    (s.apply h).text? x.key = some t := by
  rw [Headers.text?, (holds_apply ht h).get?, Option.bind_some, Utf8.decode?_encode]

/-! ### All headers -/

/-- What the state has to say under one of the keys. -/
def field? (s : RetryState) (x : RetryHeader) : Option (String × Bytes) :=
  (s.text? x).map fun t => (x.key, Utf8.encode t)

/-- Whether writing the state does away with what stands under a key. -/
def Replaces (s : RetryState) (x : RetryHeader) : Prop := (s.text? x).isSome ∨ x = .dueAt

instance (s : RetryState) (x : RetryHeader) : Decidable (s.Replaces x) :=
  inferInstanceAs (Decidable (_ ∨ _))

theorem write_of_not_replaces (hx : ¬ s.Replaces x) (h : Headers) : s.write h x = h := by
  have hnone : s.text? x = none := by
    simpa using fun hs => hx (.inl hs)
  rw [write, hnone]
  exact if_neg fun e => hx (.inr e)

/-- One value that is written stands at the end, in place of all that stood under its key. -/
theorem entries_write (s : RetryState) (h : Headers) (x : RetryHeader) :
    (s.write h x).entries =
      h.entries.filter (fun e => ¬ (s.Replaces x ∧ x.key = e.1)) ++ (s.field? x).toList := by
  by_cases hx : s.Replaces x
  · have hwithout : h.entries.filter (fun e => ¬ (s.Replaces x ∧ x.key = e.1)) =
        h.without x.key :=
      List.filter_congr fun e _ => by simp [hx, eq_comm]
    rw [hwithout, write, field?]
    cases ht : s.text? x with
    | some t => rfl
    | none =>
        dsimp only
        rw [if_pos (hx.resolve_left (by simp [ht]))]
        simp [Headers.remove]
  · have hnone : s.text? x = none := by simpa using fun hs => hx (.inl hs)
    have hall : h.entries.filter (fun e => ¬ (s.Replaces x ∧ x.key = e.1)) = h.entries :=
      List.filter_eq_self.mpr fun e _ => by simp [hx]
    rw [hall, write_of_not_replaces hx, field?, hnone]
    simp

/-- Values that are written one after the other stand at the end. -/
theorem entries_foldl_write {l : List RetryHeader} (hl : l.Nodup) (s : RetryState) (h : Headers) :
    (l.foldl s.write h).entries =
      h.entries.filter (fun e => ¬ ∃ x ∈ l, s.Replaces x ∧ x.key = e.1) ++
        l.filterMap s.field? := by
  induction l using List.reverseRecOn with
  | nil =>
      rw [List.foldl_nil, List.filterMap_nil, List.append_nil]
      exact (List.filter_eq_self.mpr fun e _ => by simp).symm
  | append_singleton l x ih =>
      obtain ⟨hl, -, hx⟩ := List.nodup_append.mp hl
      -- the values that were written before stay, as they stand under other keys
      have hstay : (l.filterMap s.field?).filter (fun e => ¬ (s.Replaces x ∧ x.key = e.1)) =
          l.filterMap s.field? := by
        refine List.filter_eq_self.mpr fun e he => ?_
        obtain ⟨y, hy, he⟩ := List.mem_filterMap.mp he
        obtain ⟨t, -, rfl⟩ := Option.map_eq_some_iff.mp he
        have hne : x.key ≠ y.key := RetryHeader.key_ne (hx y hy x (by simp)).symm
        simp [hne]
      rw [List.foldl_append, List.foldl_cons, List.foldl_nil, entries_write, ih hl,
        List.filter_append, hstay, List.filter_filter, List.filterMap_append, List.append_assoc]
      refine congrArg₂ (· ++ ·) (List.filter_congr fun e _ => ?_) ?_
      · simp only [List.mem_append, List.mem_singleton, or_and_right, exists_or, exists_eq_left,
          not_or, Bool.decide_and, Bool.and_comm]
      · cases hf : s.field? x <;> simp [hf]

/-- **What is written** stands at the end of the headers, in place of all that stood under the same
keys. -/
theorem entries_apply (s : RetryState) (h : Headers) :
    (s.apply h).entries =
      h.entries.filter (fun e => ¬ ∃ x ∈ RetryHeader.all, s.Replaces x ∧ x.key = e.1) ++
        RetryHeader.all.filterMap s.field? := by
  rw [apply_eq, entries_foldl_write (by decide)]

theorem get?_write_of_ne {y : RetryHeader} (hne : x ≠ y) (h : Headers) :
    (s.write h y).get? x.key = h.get? x.key := by
  unfold write
  split
  · rw [put, Headers.get?_insert, if_neg (RetryHeader.key_ne hne)]
  · split
    · rw [Headers.get?_remove, if_neg (RetryHeader.key_ne hne)]
    · rfl

/-- What is not replaced stays as it is. -/
theorem text?_apply_of_not_replaces (hx : ¬ s.Replaces x) (h : Headers) :
    (s.apply h).text? x.key = h.text? x.key := by
  have hget : (s.apply h).get? x.key = h.get? x.key := by
    rw [apply_eq]
    generalize RetryHeader.all = l
    induction l generalizing h with
    | nil => rfl
    | cons y l ih =>
        rw [List.foldl_cons, ih]
        by_cases hy : x = y
        · rw [← hy, write_of_not_replaces hx]
        · exact get?_write_of_ne hy h
  rw [Headers.text?, hget, Headers.text?]

/-- What the state lacks stays as it is, unless it is a due time. -/
theorem text?_apply_eq_or (hx : x ≠ .dueAt) (h : Headers) :
    (s.apply h).text? x.key = (s.text? x).or (h.text? x.key) := by
  cases ht : s.text? x with
  | some t => rw [text?_apply ht, Option.some_or]
  | none => rw [text?_apply_of_not_replaces (by simp [Replaces, ht, hx]), Option.none_or]

/-- A due time that is missing is removed. -/
theorem get?_dueAt_apply (hs : s.dueAt = none) (h : Headers) :
    (s.apply h).get? RetryHeader.dueAt.key = none := by
  have hkey : ∀ e ∈ (s.apply h).entries, e.1 ≠ RetryHeader.dueAt.key := by
    intro e he hdue
    rw [entries_apply] at he
    rcases List.mem_append.mp he with he | he
    · refine absurd (List.mem_filter.mp he).2 ?_
      simpa using ⟨.dueAt, RetryHeader.mem_all _, .inr rfl, hdue.symm⟩
    · obtain ⟨x, -, hx⟩ := List.mem_filterMap.mp he
      obtain ⟨t, ht, rfl⟩ := Option.map_eq_some_iff.mp hx
      obtain rfl : x = .dueAt := RetryHeader.key_injective hdue
      simp [text?, hs] at ht
  simpa [Headers.get?] using hkey

/-! ### The next hop -/

/-- A failure gives a state all of its values. -/
theorem isSome_text?_nextHop (s : RetryState) (f : Failure) (due : Instant) (x : RetryHeader) :
    ((s.nextHop f due).text? x).isSome = true := by
  cases x <;> rfl

/-- **Each key** of a retry state stands once in the headers of a copy. -/
theorem count_nextHop (s : RetryState) (f : Failure) (due : Instant) (h : Headers)
    (x : RetryHeader) : ((s.nextHop f due).apply h).count x.key = 1 := by
  obtain ⟨t, ht⟩ := Option.isSome_iff_exists.mp (s.isSome_text?_nextHop f due x)
  exact (holds_apply ht h).count

end RetryState

end Redelivery
