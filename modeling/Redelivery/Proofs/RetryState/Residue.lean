import Redelivery.Proofs.RetryState.Reading

/-!
# RetryState — what shows through

A state that is written into headers replaces what they told of the values that it has, and a due
time that it lacks is removed.  What it lacks of a failure is neither replaced nor removed: the
kind, the kinds of the causes and the message of an earlier failure stay, and are read back as if
they were the state's own (`RetryState.atop`).

**Residue** (`residue_apply`).  So two headers that a state is written into are read alike just
when they told the same of each of these three values that the state lacks
(`RetryState.AgreesOver`).  Earlier headers never show through just for states that lack none of
them (`RetryState.HasFailure`), as the states of all copies do, but not that of a first attempt
(`residue_apply_fresh`).
-/

namespace Redelivery

/-- The headers of a record that failed before. -/
def Headers.failedBefore : Headers where
  entries :=
    [(RetryHeader.failureKind.key, Utf8.encode "Timeout"),
      (RetryHeader.causeKinds.key, Utf8.encode "Timeout,Io"),
      (RetryHeader.failureMessage.key, Utf8.encode "it is slow")]

namespace RetryState

/-- The state has all values of a failure. -/
structure HasFailure (s : RetryState) : Prop where
  kind : s.failureKind ≠ none
  causes : s.causeKinds ≠ []
  message : s.failureMessage ≠ none

/-- Two headers tell the same of each value of a failure that the state lacks. -/
structure AgreesOver (s : RetryState) (h₁ h₂ : Headers) : Prop where
  kind : s.failureKind = none →
    h₁.text? RetryHeader.failureKind.key = h₂.text? RetryHeader.failureKind.key
  causes : s.causeKinds = [] → causesIn h₁ = causesIn h₂
  message : s.failureMessage = none →
    h₁.text? RetryHeader.failureMessage.key = h₂.text? RetryHeader.failureMessage.key

variable {s : RetryState} {h₁ h₂ : Headers}

theorem or_eq_or_iff {α : Type} {o a b : Option α} : o.or a = o.or b ↔ (o = none → a = b) := by
  cases o <;> simp

theorem atop_eq_atop_iff : s.atop h₁ = s.atop h₂ ↔ s.AgreesOver h₁ h₂ := by
  constructor
  · intro h
    have hcauses := congrArg causeKinds h
    refine ⟨or_eq_or_iff.mp (congrArg RetryState.failureKind h), fun hs => ?_,
      or_eq_or_iff.mp (congrArg failureMessage h)⟩
    simpa only [atop, if_pos hs] using hcauses
  · intro h
    have hcauses : (if s.causeKinds = [] then causesIn h₁ else s.causeKinds.flatMap splitNames) =
        if s.causeKinds = [] then causesIn h₂ else s.causeKinds.flatMap splitNames := by
      split
      · rename_i hs
        exact h.causes hs
      · rfl
    rw [atop, atop, or_eq_or_iff.mpr h.kind, or_eq_or_iff.mpr h.message, hcauses]

/-- A copy is written with all values of a failure. -/
theorem hasFailure_nextHop (s : RetryState) (f : Failure) (due : Instant) :
    (s.nextHop f due).HasFailure :=
  ⟨Option.some_ne_none _, List.cons_ne_nil _ _, Option.some_ne_none _⟩

/-- A state with all values of a failure takes none from the headers. -/
theorem HasFailure.agreesOver (hs : s.HasFailure) (h₁ h₂ : Headers) : s.AgreesOver h₁ h₂ :=
  ⟨fun h => absurd h hs.kind, fun h => absurd h hs.causes, fun h => absurd h hs.message⟩

/-- A state that lacks a value of a failure takes it from headers that have it. -/
theorem hasFailure_of_agreesOver (h : s.AgreesOver .empty .failedBefore) : s.HasFailure where
  kind hs := absurd (h.kind hs) (by decide +kernel)
  causes hs := absurd (h.causes hs) (by decide +kernel)
  message hs := absurd (h.message hs) (by decide +kernel)

/-- **Residue.**  What is read of a state that was written, when earlier headers do not matter to
it, and that they never matter to a copy. -/
theorem residue_apply (s : RetryState) :
    (∀ h, read (s.apply h) = .ok (some (s.atop h))) ∧
    (∀ h₁ h₂, read (s.apply h₁) = read (s.apply h₂) ↔ s.AgreesOver h₁ h₂) ∧
    ((∀ h₁ h₂, read (s.apply h₁) = read (s.apply h₂)) ↔ s.HasFailure) ∧
    ∀ f due h₁ h₂, read ((s.nextHop f due).apply h₁) = read ((s.nextHop f due).apply h₂) := by
  have hagree : ∀ (s : RetryState) h₁ h₂,
      read (s.apply h₁) = read (s.apply h₂) ↔ s.AgreesOver h₁ h₂ := by
    intro s h₁ h₂
    rw [read_apply, read_apply, ← atop_eq_atop_iff]
    simp
  refine ⟨read_apply s, hagree s, ⟨fun h => ?_, fun hs h₁ h₂ => ?_⟩, fun f due h₁ h₂ => ?_⟩
  · exact hasFailure_of_agreesOver ((hagree s _ _).mp (h _ _))
  · exact (hagree s h₁ h₂).mpr (hs.agreesOver h₁ h₂)
  · exact (hagree _ h₁ h₂).mpr ((s.hasFailure_nextHop f due).agreesOver h₁ h₂)

/-- The state of a first attempt. -/
def fresh : RetryState := first ⟨"orders", 2, 41, none, none, .empty, none⟩ 1000

/-- The failure of another attempt shows through the state of a first one. -/
theorem residue_apply_fresh :
    read (fresh.apply .empty) = .ok (some fresh) ∧
      read (fresh.apply .failedBefore) =
        .ok (some { fresh with failureKind := some "Timeout", causeKinds := ["Timeout", "Io"]
                               failureMessage := some "it is slow" }) ∧
      ¬ ∀ (s : RetryState) (h₁ h₂ : Headers), read (s.apply h₁) = read (s.apply h₂) := by
  have hempty : read (fresh.apply .empty) = .ok (some fresh) := by decide +kernel
  have hfailed : read (fresh.apply .failedBefore) =
      .ok (some { fresh with failureKind := some "Timeout", causeKinds := ["Timeout", "Io"]
                             failureMessage := some "it is slow" }) := by decide +kernel
  refine ⟨hempty, hfailed, fun h => ?_⟩
  have hsame := h fresh .empty .failedBefore
  rw [hempty, hfailed] at hsame
  cases hsame

end RetryState

end Redelivery
