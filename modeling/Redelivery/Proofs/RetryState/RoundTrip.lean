import Redelivery.Proofs.RetryState.Reading

/-!
# RetryState — reading and writing

**Round trip** (`roundTrip_nextHop`).  The kinds of a failure survive a hop just when each of them
is a name that can stand between commas (`splitNames_intercalate_eq_iff`), and all other values of
its state always do.

**Stability** (`stable_apply`).  A state that was read and is written again is read again: what
writing leaves alone are headers that no text is read from.  What is written stands in place of all
that stood under the same keys, and so a state that is written twice leaves the same headers as one
that is written once (`apply_apply`).
-/

namespace Redelivery

namespace RetryState

/-- Texts are what is read back of them just when all of them are names. -/
theorem splitNames_intercalate_eq_iff (l : List String) :
    splitNames (String.intercalate "," l) = l ↔ ∀ k ∈ l, IsName k := by
  constructor
  · intro h k hk
    rw [← h] at hk
    exact isName_of_mem_splitNames hk
  · exact splitNames_intercalate_of_isName

/-- **A hop** is read back as it was written, but for kinds that are no names. -/
theorem roundTrip_nextHop (s : RetryState) (f : Failure) (due : Instant) (h : Headers) :
    ∃ r, read ((s.nextHop f due).apply h) = .ok (some r) ∧
      { r with causeKinds := (s.nextHop f due).causeKinds } = s.nextHop f due ∧
      r.causeKinds = f.kinds.flatMap splitNames ∧
      (r = s.nextHop f due ↔ ∀ level ∈ f.levels, level.kind ≠ "" ∧ ',' ∉ level.kind.toList) := by
  refine ⟨_, s.read_nextHop f due h, rfl, splitNames_intercalate f.kinds, ?_⟩
  have hkinds : (∀ level ∈ f.levels, level.kind ≠ "" ∧ ',' ∉ level.kind.toList) ↔
      ∀ k ∈ f.kinds, IsName k := by
    simp [Failure.kinds, IsName]
  rw [hkinds, ← splitNames_intercalate_eq_iff]
  constructor
  · exact fun e => congrArg RetryState.causeKinds e
  · intro e
    rw [e]
    rfl

/-- A state that is written twice is written once. -/
theorem apply_apply (s : RetryState) (h : Headers) : s.apply (s.apply h) = s.apply h := by
  have hfields : (RetryHeader.all.filterMap s.field?).filter
      (fun e => ¬ ∃ x ∈ RetryHeader.all, s.Replaces x ∧ x.key = e.1) = [] := by
    refine List.filter_eq_nil_iff.mpr fun e he => ?_
    obtain ⟨x, hx, he⟩ := List.mem_filterMap.mp he
    obtain ⟨t, ht, rfl⟩ := Option.map_eq_some_iff.mp he
    have hreplaces : ∃ y ∈ RetryHeader.all, s.Replaces y ∧ y.key = x.key :=
      ⟨x, hx, .inl (by simp [ht]), rfl⟩
    simpa using hreplaces
  have hentries : (s.apply (s.apply h)).entries = (s.apply h).entries := by
    rw [entries_apply s (s.apply h), entries_apply s h, List.filter_append, hfields,
      List.filter_filter, List.append_nil]
    simp only [Bool.and_self]
  exact congrArg Headers.mk hentries

/-- **Stability** of what was read and is written again, and of what is written twice. -/
theorem stable_apply :
    (∀ (h : Headers) (s : RetryState), read h = .ok (some s) → read (s.apply h) = .ok (some s)) ∧
    ∀ (s : RetryState) (h : Headers), s.apply (s.apply h) = s.apply h :=
  ⟨fun h s hread => by
    have htells := tells_apply s h
    rw [atop_of_tells (read_eq_ok_some_iff.mp hread)] at htells
    exact read_eq_ok_some_iff.mpr htells, apply_apply⟩

end RetryState

/-- Headers that were written by hand: a count that stands twice, blanks and signs around numbers,
commas too many, and a kind that is no text. -/
def Headers.worn : Headers where
  entries :=
    [(RetryHeader.attempts.key, Utf8.encode "many"), ("trace", Utf8.encode "a"),
      (RetryHeader.originalTopic.key, Utf8.encode "orders"),
      (RetryHeader.originalPartition.key, Utf8.encode " +2 "),
      (RetryHeader.originalOffset.key, Utf8.encode "041"),
      (RetryHeader.attempts.key, Utf8.encode "+7"),
      (RetryHeader.firstAttempt.key, Utf8.encode "-1000"),
      (RetryHeader.failureKind.key, ⟨#[0xFF]⟩),
      (RetryHeader.causeKinds.key, Utf8.encode ",Io,,Db,")]

/-- The state that they tell. -/
def RetryState.worn : RetryState where
  originalTopic := "orders"
  originalPartition := 2
  originalOffset := 41
  attempts := 7
  firstAttempt := -1000
  dueAt := none
  failureKind := none
  causeKinds := ["Io", "Db"]
  failureMessage := none

/-- It is told by them also in another form. -/
theorem RetryState.stable_apply_worn :
    read .worn = .ok (some .worn) ∧ read (apply .worn .worn) = .ok (some .worn) ∧
      apply .worn .worn ≠ .worn := by
  have hread : read .worn = .ok (some .worn) := by decide +kernel
  exact ⟨hread, stable_apply.1 .worn .worn hread, by decide +kernel⟩

end Redelivery
