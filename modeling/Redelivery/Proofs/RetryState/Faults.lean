import Redelivery.Proofs.RetryState.Reading

/-!
# RetryState — what is wrong with headers

Three of the headers announce a state (`RetryHeader.announcing`); without any of them there is none
to be read, whatever the others hold.  A state that is announced is looked for in six headers, one
after the other (`RetryHeader.checked`), each of which may be at fault: it is missing, though only a
due time may be, or it holds no text, or a text that is not what belongs there (`Headers.fault?`).

**Reading** (`read_fault`).  What is read of an announced state is the first fault in this order, or
the state if there is no fault.  The headers that do not announce a state are those whose absence
the others do not make up for: alone in the headers they are passed over (`read_fault_stray`).
-/

namespace Redelivery

namespace RetryHeader

/-- The headers that announce a state. -/
def announcing : List RetryHeader := [.originalTopic, .originalOffset, .attempts]

/-- The headers that have to be legible, in the order in which they are looked at. -/
def checked : List RetryHeader :=
  [.originalTopic, .originalOffset, .originalPartition, .attempts, .firstAttempt, .dueAt]

/-- Whether a text is one that belongs under the header. -/
def admits : RetryHeader → String → Bool
  | .originalPartition, t => (Decimal.readInt32? t).isSome
  | .originalOffset, t | .firstAttempt, t | .dueAt, t => (Decimal.readInt64? t).isSome
  | .attempts, t => (Decimal.readUInt32? t).isSome
  | .originalTopic, _ | .failureKind, _ | .causeKinds, _ | .failureMessage, _ => true

end RetryHeader

/-- The header that an error is about. -/
def HeaderError.header : HeaderError → RetryHeader
  | .missing x | .invalid x _ => x

/-- What is wrong with a header that has to be legible. -/
def Headers.fault? (h : Headers) (x : RetryHeader) : Option HeaderError :=
  match h.get? x.key with
  | none => if x = .dueAt then none else some (.missing x)
  | some raw =>
      match Utf8.decode? raw with
      | none => some (.invalid x (Utf8.decodeLossy raw))
      | some t => if x.admits t then none else some (.invalid x t)

namespace RetryState

variable {h : Headers} {x : RetryHeader} {e : HeaderError}

/-! ### One header -/

/-- A value that need not be there fails if it is there and is at fault. -/
theorem optional_eq_error_iff {α : Type} {read? : String → Option α}
    (hread : ∀ t, x.admits t = (read? t).isSome) :
    optional read? h x = .error e ↔ h.get? x.key ≠ none ∧ h.fault? x = some e := by
  rw [optional_eq, Headers.fault?]
  cases h.get? x.key with
  | none => simp
  | some raw =>
      dsimp only
      cases Utf8.decode? raw with
      | none => simp
      | some t =>
          dsimp only
          rw [hread]
          cases read? t <;> simp

theorem required_eq_error_iff {α : Type} {v : Except HeaderError (Option α)} :
    required x v = .error e ↔ v = .error e ∨ v = .ok none ∧ e = .missing x := by
  cases v with
  | error e' => simp [required, bind, Except.bind]
  | ok o =>
      cases o with
      | none => simp [required, bind, Except.bind, throw, throwThe, MonadExceptOf.throw, eq_comm]
      | some a => simp [required, bind, Except.bind, pure, Except.pure]

/-- A computation fails with the fault of a header, and only with it. -/
def FailsFor {α : Type} (v : Except HeaderError α) (h : Headers) (x : RetryHeader) : Prop :=
  ∀ e, v = .error e ↔ h.fault? x = some e

theorem failsFor_dueAt : FailsFor (optional Decimal.readInt64? h .dueAt) h .dueAt := by
  intro e
  rw [optional_eq_error_iff fun _ => rfl, and_iff_right_iff_imp]
  intro hf hnone
  simp [Headers.fault?, hnone] at hf

theorem failsFor_required {α : Type} {read? : String → Option α} (hx : x ≠ .dueAt)
    (hread : ∀ t, x.admits t = (read? t).isSome) :
    FailsFor (required x (optional read? h x)) h x := by
  intro e
  rw [required_eq_error_iff, optional_eq_error_iff hread, optional_eq_ok_none_iff]
  by_cases hnone : h.get? x.key = none
  · simp [Headers.fault?, hnone, hx, eq_comm]
  · simp [hnone]

/-! ### All headers -/

/-- What fails for one header, and then for the first of others, fails for the first of all. -/
theorem FailsFor.bind {α β : Type} {v : Except HeaderError α} {f : α → Except HeaderError β}
    (hv : FailsFor v h x) {l : List RetryHeader}
    (hf : ∀ a, f a = .error e ↔ l.findSome? h.fault? = some e) :
    v >>= f = .error e ↔ (x :: l).findSome? h.fault? = some e := by
  cases v with
  | error e' =>
      rw [List.findSome?_cons, (hv e').mp rfl]
      simp [Bind.bind, Except.bind]
  | ok a =>
      have hnone : h.fault? x = none :=
        Option.eq_none_iff_forall_ne_some.mpr fun e' he' => by cases (hv e').mpr he'
      rw [List.findSome?_cons, hnone]
      exact hf a

theorem isPresent_eq_false_iff :
    isPresent h = false ↔ ∀ x ∈ RetryHeader.announcing, h.get? x.key = none := by
  simp [isPresent, RetryHeader.announcing]

/-- An announced state is not read just if a header is at fault, and the first one that is says
why. -/
theorem read_eq_error_iff_findSome? (hp : isPresent h = true) :
    read h = .error e ↔ RetryHeader.checked.findSome? h.fault? = some e := by
  rw [read, if_pos hp]
  refine (optionalText_eq h .originalTopic ▸ failsFor_required (by decide) fun _ => rfl).bind
    fun _ => ?_
  refine (failsFor_required (by decide) fun _ => rfl).bind fun _ => ?_
  refine (failsFor_required (by decide) fun _ => rfl).bind fun _ => ?_
  refine (failsFor_required (by decide) fun _ => rfl).bind fun _ => ?_
  refine (failsFor_required (by decide) fun _ => rfl).bind fun _ => ?_
  refine failsFor_dueAt.bind fun _ => ?_
  simp [pure, Except.pure]

theorem read_eq_ok_none_iff : read h = .ok none ↔ isPresent h = false := by
  unfold read
  constructor
  · intro hread
    split at hread
    · simp only [bind_eq_ok_iff] at hread
      obtain ⟨_, _, _, _, _, _, _, _, _, _, _, _, hread⟩ := hread
      cases hread
    · rename_i hp
      simpa using hp
  · intro hp
    rw [if_neg (by simp [hp])]
    rfl

theorem header_of_fault? (hf : h.fault? x = some e) : e.header = x := by
  unfold Headers.fault? at hf
  split at hf
  · split at hf
    · cases hf
    · cases hf
      rfl
  · split at hf
    · cases hf
      rfl
    · split at hf
      · cases hf
      · cases hf
        rfl

/-- An announced state is read if no header is at fault. -/
theorem exists_read_iff_findSome? (hp : isPresent h = true) :
    (∃ s, read h = .ok (some s)) ↔ RetryHeader.checked.findSome? h.fault? = none := by
  rw [Option.eq_none_iff_forall_ne_some]
  constructor
  · rintro ⟨s, hread⟩ e he
    rw [(read_eq_error_iff_findSome? hp).mpr he] at hread
    cases hread
  · intro hnone
    cases hread : read h with
    | error e => exact absurd ((read_eq_error_iff_findSome? hp).mp hread) (hnone e)
    | ok o =>
        cases o with
        | none => simp [read_eq_ok_none_iff.mp hread] at hp
        | some s => exact ⟨s, rfl⟩

/-- **Reading** finds no state if none is announced, the first fault in order if there is one, and
a state otherwise. -/
theorem read_fault (h : Headers) :
    (read h = .ok none ↔ ∀ x ∈ RetryHeader.announcing, h.get? x.key = none) ∧
    ((∃ x ∈ RetryHeader.announcing, h.get? x.key ≠ none) →
      (∀ e, read h = .error e ↔ ∃ before after,
        RetryHeader.checked = before ++ e.header :: after ∧ h.fault? e.header = some e ∧
          ∀ y ∈ before, h.fault? y = none) ∧
      ((∃ s, read h = .ok (some s)) ↔ ∀ x ∈ RetryHeader.checked, h.fault? x = none)) := by
  rw [read_eq_ok_none_iff, isPresent_eq_false_iff]
  refine ⟨Iff.rfl, fun ⟨x, hx, hne⟩ => ?_⟩
  have hp : isPresent h = true := by
    rw [← Bool.not_eq_false, isPresent_eq_false_iff]
    exact fun hnone => hne (hnone x hx)
  refine ⟨fun e => ?_, ?_⟩
  · rw [read_eq_error_iff_findSome? hp, List.findSome?_eq_some_iff]
    constructor
    · rintro ⟨before, y, after, hsplit, hf, hbefore⟩
      obtain rfl := header_of_fault? hf
      exact ⟨before, after, hsplit, hf, hbefore⟩
    · rintro ⟨before, after, hsplit, hf, hbefore⟩
      exact ⟨before, _, after, hsplit, hf, hbefore⟩
  · rw [exists_read_iff_findSome? hp, List.findSome?_eq_none_iff]

end RetryState

/-- The number of a partition and nothing else. -/
def Headers.stray : Headers := ⟨[(RetryHeader.originalPartition.key, Utf8.encode "2")]⟩

/-- A header that announces nothing is passed over, and so is what is missing beside it. -/
theorem RetryState.read_fault_stray :
    Headers.stray.get? RetryHeader.originalPartition.key ≠ none ∧
      Headers.stray.fault? .originalTopic = some (.missing .originalTopic) ∧
      read .stray = .ok none ∧
      ¬ ∀ h : Headers, read h = .ok none ↔ ∀ x : RetryHeader, h.get? x.key = none := by
  have hthere : Headers.stray.get? RetryHeader.originalPartition.key ≠ none := by decide +kernel
  have hread : read .stray = .ok none := by decide +kernel
  exact ⟨hthere, by decide +kernel, hread, fun h => hthere ((h .stray).mp hread _)⟩

end Redelivery
