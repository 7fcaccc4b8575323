import Redelivery.Proofs.RetryState.Headers

/-!
# RetryState — what is read from headers

`Headers.Tells` says, value by value, which state is read from headers (`read_eq_ok_some_iff`).

**Kinds of causes** are written with commas between them, and what is read back are the names
between commas, without empty ones (`splitNames_intercalate`).

**What was written** is read back over what the headers told of a failure before
(`RetryState.atop`, `read_apply`).  The state of a copy has all values of a failure, and so nothing
else is read from the headers of a copy (`read_nextHop`).  A record that is passed on so
(`Record.PassedOn`) is otherwise as it was.
-/

namespace Redelivery

namespace RetryState

/-! ### Names between commas -/

/-- A text that can stand between commas. -/
def IsName (s : String) : Prop := s ≠ "" ∧ ',' ∉ s.toList

theorem not_mem_of_mem_splitOn {α : Type} [DecidableEq α] {a : α} {l piece : List α}
    (h : piece ∈ l.splitOn a) : a ∉ piece := by
  induction l generalizing piece with
  | nil =>
      rw [List.splitOn_nil, List.mem_singleton] at h
      simp [h]
  | cons x l ih =>
      rw [List.splitOn_cons_eq_if_modifyHead] at h
      split at h
      · rcases List.mem_cons.mp h with rfl | h
        · exact List.not_mem_nil
        · exact ih h
      · rename_i hne
        -- the element is put in front of the first piece
        cases hl : l.splitOn a with
        | nil => exact absurd hl (List.splitOn_ne_nil a l)
        | cons first rest =>
            rw [hl, List.modifyHead_cons] at h
            rcases List.mem_cons.mp h with rfl | h
            · have hfirst : a ∉ first := ih (hl ▸ List.mem_cons_self)
              have hx : a ≠ x := fun e => hne (by simp [e])
              simp [hx, hfirst]
            · exact ih (hl ▸ List.mem_cons_of_mem _ h)

theorem isName_of_mem_splitNames {s k : String} (h : k ∈ splitNames s) : IsName k := by
  simp only [splitNames, List.mem_map, List.mem_filter] at h
  obtain ⟨piece, ⟨hpiece, hne⟩, rfl⟩ := h
  refine ⟨fun e => ?_, ?_⟩
  · have := congrArg String.toList e
    simp only [String.toList_ofList, String.toList_empty] at this
    simp [this] at hne
  · rw [String.toList_ofList]
    exact not_mem_of_mem_splitOn hpiece

theorem splitNames_of_isName {s : String} (h : IsName s) : splitNames s = [s] := by
  have hne : s.toList ≠ [] := fun e => h.1 (String.toList_inj.mp e)
  rw [splitNames, List.splitOn_eq_singleton h.2, List.filter_cons_of_pos (by simpa using hne),
    List.filter_nil, List.map_singleton, String.ofList_toList]

theorem splitNames_append (s t : String) :
    splitNames (s ++ "," ++ t) = splitNames s ++ splitNames t := by
  have hlist : (s ++ "," ++ t).toList = s.toList ++ ',' :: t.toList := by simp
  rw [splitNames, hlist, List.splitOn_append_cons_self, List.filter_append, List.map_append]
  rfl

/-- **Names that were joined** come apart again, each into the names that it has in it. -/
theorem splitNames_intercalate (l : List String) :
    splitNames (String.intercalate "," l) = l.flatMap splitNames := by
  induction l with
  | nil => rfl
  | cons a l ih =>
      cases l with
      | nil => simp
      | cons b l =>
          rw [String.intercalate_cons_of_ne_nil (List.cons_ne_nil b l), splitNames_append, ih]
          rfl

theorem splitNames_intercalate_of_isName {l : List String} (h : ∀ k ∈ l, IsName k) :
    splitNames (String.intercalate "," l) = l := by
  rw [splitNames_intercalate]
  induction l with
  | nil => rfl
  | cons a l ih =>
      rw [List.flatMap_cons, splitNames_of_isName (h a List.mem_cons_self),
        ih fun k hk => h k (List.mem_cons_of_mem _ hk), List.singleton_append]

end RetryState

/-! ### What is read -/

/-- The headers say the values of a state, each in a text under its key. -/
structure Headers.Tells (h : Headers) (s : RetryState) : Prop where
  originalTopic : h.text? RetryHeader.originalTopic.key = some s.originalTopic
  originalPartition : (h.text? RetryHeader.originalPartition.key).bind Decimal.readInt32? =
    some s.originalPartition
  originalOffset : (h.text? RetryHeader.originalOffset.key).bind Decimal.readInt64? =
    some s.originalOffset
  attempts : (h.text? RetryHeader.attempts.key).bind Decimal.readUInt32? = some s.attempts
  firstAttempt : (h.text? RetryHeader.firstAttempt.key).bind Decimal.readInt64? =
    some s.firstAttempt
  /-- Of the values that may be missing this is the only one that has to be legible. -/
  dueAt : RetryState.optional Decimal.readInt64? h .dueAt = .ok s.dueAt
  failureKind : h.text? RetryHeader.failureKind.key = s.failureKind
  causeKinds : ((h.text? RetryHeader.causeKinds.key).map RetryState.splitNames).getD [] =
    s.causeKinds
  failureMessage : h.text? RetryHeader.failureMessage.key = s.failureMessage

namespace RetryState

variable {h : Headers} {s : RetryState} {x : RetryHeader}

/-- A computation that succeeds does so at each step. -/
theorem bind_eq_ok_iff {ε α β : Type} {v : Except ε α} {f : α → Except ε β} {b : β} :
    v >>= f = .ok b ↔ ∃ a, v = .ok a ∧ f a = .ok b := by
  cases v with
  | error e => simp [bind, Except.bind]
  | ok a => simp [bind, Except.bind]

theorem optionalText_eq (h : Headers) (x : RetryHeader) :
    optionalText h x = optional some h x := by
  unfold optional
  cases optionalText h x with
  | error e => rfl
  | ok o => cases o <;> rfl

/-- What becomes of a value that need not be there. -/
theorem optional_eq {α : Type} (read? : String → Option α) (h : Headers) (x : RetryHeader) :
    optional read? h x =
      match h.get? x.key with
      | none => .ok none
      | some raw =>
          match Utf8.decode? raw with
          | none => .error (.invalid x (Utf8.decodeLossy raw))
          | some t =>
              match read? t with
              | none => .error (.invalid x t)
              | some a => .ok (some a) := by
  unfold optional optionalText
  cases h.get? x.key with
  | none => rfl
  | some raw =>
      dsimp only
      cases Utf8.decode? raw with
      | none => rfl
      | some t =>
          cases hr : read? t <;> simp only [hr, bind, Except.bind] <;> rfl

theorem optional_eq_ok_none_iff {α : Type} {read? : String → Option α} :
    optional read? h x = .ok none ↔ h.get? x.key = none := by
  rw [optional_eq]
  cases h.get? x.key with
  | none => simp
  | some raw =>
      dsimp only
      cases Utf8.decode? raw with
      | none => simp
      | some t =>
          dsimp only
          cases read? t <;> simp

theorem optional_eq_ok_some_iff {α : Type} {read? : String → Option α} {a : α} :
    optional read? h x = .ok (some a) ↔ (h.text? x.key).bind read? = some a := by
  rw [optional_eq, Headers.text?]
  cases h.get? x.key with
  | none => simp
  | some raw =>
      rw [Option.bind_some]
      dsimp only
      cases Utf8.decode? raw with
      | none => simp
      | some t =>
          rw [Option.bind_some]
          dsimp only
          cases read? t <;> simp

theorem optionalText_eq_ok_some_iff {t : String} :
    optionalText h x = .ok (some t) ↔ h.text? x.key = some t := by
  rw [optionalText_eq, optional_eq_ok_some_iff, Option.bind_fun_some]

theorem required_eq_ok_iff {α : Type} {value : Except HeaderError (Option α)} {a : α} :
    required x value = .ok a ↔ value = .ok (some a) := by
  simp only [required, bind_eq_ok_iff]
  constructor
  · rintro ⟨_ | b, hb, h⟩
    · cases h
    · cases h
      exact hb
  · intro h
    exact ⟨some a, h, rfl⟩

theorem isPresent_of_text? {t : String} (h' : h.text? RetryHeader.originalTopic.key = some t) :
    isPresent h = true := by
  obtain ⟨raw, hraw, -⟩ := Option.bind_eq_some_iff.mp h'
  simp [isPresent, hraw]

/-- **Reading** gives the state that the headers tell. -/
theorem read_eq_ok_some_iff : read h = .ok (some s) ↔ h.Tells s := by
  constructor
  · intro hread
    unfold read at hread
    split at hread
    · simp only [bind_eq_ok_iff, required_eq_ok_iff] at hread
      obtain ⟨topic, htopic, offset, hoffset, partition, hpartition, attempts, hattempts, first,
        hfirst, due, hdue, hstate⟩ := hread
      cases hstate
      exact ⟨optionalText_eq_ok_some_iff.mp htopic, optional_eq_ok_some_iff.mp hpartition,
        optional_eq_ok_some_iff.mp hoffset, optional_eq_ok_some_iff.mp hattempts,
        optional_eq_ok_some_iff.mp hfirst, hdue, rfl, rfl, rfl⟩
    · cases hread
  · intro ht
    rw [read, if_pos (isPresent_of_text? ht.originalTopic)]
    simp only [bind_eq_ok_iff, required_eq_ok_iff]
    refine ⟨_, optionalText_eq_ok_some_iff.mpr ht.originalTopic, _,
      optional_eq_ok_some_iff.mpr ht.originalOffset, _,
      optional_eq_ok_some_iff.mpr ht.originalPartition, _,
      optional_eq_ok_some_iff.mpr ht.attempts, _, optional_eq_ok_some_iff.mpr ht.firstAttempt, _,
      ht.dueAt, ?_⟩
    rw [ht.failureKind, ht.causeKinds, ht.failureMessage]
    rfl

/-! ### What was written -/

/-- The kinds of the causes that headers tell. -/
def causesIn (h : Headers) : List String :=
  ((h.text? RetryHeader.causeKinds.key).map splitNames).getD []

/-- The state with what headers tell of a failure, where it lacks the value itself. -/
def atop (s : RetryState) (h : Headers) : RetryState :=
  { s with
    failureKind := s.failureKind.or (h.text? RetryHeader.failureKind.key)
    causeKinds := if s.causeKinds = [] then causesIn h else s.causeKinds.flatMap splitNames
    failureMessage := s.failureMessage.or (h.text? RetryHeader.failureMessage.key) }

/-- **Headers that a state was written into** tell it over what they told before. -/
theorem tells_apply (s : RetryState) (h : Headers) : (s.apply h).Tells (s.atop h) where
  originalTopic := text?_apply (x := .originalTopic) rfl h
  originalPartition := by
    rw [text?_apply (x := .originalPartition) rfl, Option.bind_some, Decimal.readInt32?_toString]
    rfl
  originalOffset := by
    rw [text?_apply (x := .originalOffset) rfl, Option.bind_some, Decimal.readInt64?_toString]
    rfl
  attempts := by
    rw [text?_apply (x := .attempts) rfl, Option.bind_some, Decimal.readUInt32?_toString]
    rfl
  firstAttempt := by
    rw [text?_apply (x := .firstAttempt) rfl, Option.bind_some, Decimal.readInt64?_toString]
    rfl
  dueAt := by
    rw [show (s.atop h).dueAt = s.dueAt from rfl]
    cases hs : s.dueAt with
    | some due =>
        have htext : s.text? .dueAt = some (toString due.toInt) := by
          rw [text?, hs, Option.map_some]
        rw [optional_eq_ok_some_iff, text?_apply htext, Option.bind_some,
          Decimal.readInt64?_toString]
    | none => exact optional_eq_ok_none_iff.mpr (get?_dueAt_apply hs h)
  failureKind := text?_apply_eq_or (x := .failureKind) (by decide) h
  causeKinds := by
    rw [text?_apply_eq_or (by decide), text?, atop]
    cases hs : s.causeKinds with
    | nil => rfl
    | cons k l =>
        rw [← splitNames_intercalate]
        rfl
  failureMessage := text?_apply_eq_or (x := .failureMessage) (by decide) h

/-- A state that headers tell lacks nothing that they tell. -/
theorem atop_of_tells (ht : h.Tells s) : s.atop h = s := by
  have hcauses : (if s.causeKinds = [] then causesIn h else s.causeKinds.flatMap splitNames) =
      s.causeKinds := by
    split
    · exact ht.causeKinds
    · rw [← splitNames_intercalate]
      refine splitNames_intercalate_of_isName fun k hk => ?_
      rw [← ht.causeKinds] at hk
      cases hc : h.text? RetryHeader.causeKinds.key with
      | none => simp [hc] at hk
      | some t => exact isName_of_mem_splitNames (by simpa [hc] using hk)
  rw [atop, ht.failureKind, ht.failureMessage, Option.or_self, Option.or_self, hcauses]

/-- **What is read** of a state that was written. -/
theorem read_apply (s : RetryState) (h : Headers) : read (s.apply h) = .ok (some (s.atop h)) :=
  read_eq_ok_some_iff.mpr (tells_apply s h)

/-- **Reading** the headers of a copy gives the state that was written. -/
theorem read_nextHop (s : RetryState) (f : Failure) (due : Instant) (h : Headers) :
    read ((s.nextHop f due).apply h) =
      .ok (some
        { s.nextHop f due with causeKinds := splitNames (String.intercalate "," f.kinds) }) := by
  rw [read_apply, splitNames_intercalate]
  rfl

end RetryState

/-- The record `r'` is `r` with its state after one more attempt, which ended in a failure. -/
structure Record.PassedOn (state : RetryState) (f : Failure) (r r' : Record) : Prop where
  key : r'.key = r.key
  payload : r'.payload = r.payload
  headers : ∃ due, r'.headers = (state.nextHop f due).apply r.headers

/-- What is read from the headers of a copy. -/
theorem Record.PassedOn.exists_read {state : RetryState} {f : Failure} {r r' : Record}
    (h : r.PassedOn state f r') : ∃ next, RetryState.read r'.headers = .ok (some next) ∧
      next.originalTopic = state.originalTopic ∧
      next.originalPartition = state.originalPartition ∧
      next.originalOffset = state.originalOffset ∧ next.attempts = nextCount state.attempts ∧
      next.firstAttempt = state.firstAttempt ∧ next.failureKind = some f.kind ∧
      next.failureMessage = some f.message := by
  obtain ⟨due, hh⟩ := h.headers
  have hread := RetryState.read_nextHop state f due r.headers
  rw [← hh] at hread
  exact ⟨_, hread, rfl, rfl, rfl, rfl, rfl, rfl, rfl⟩

theorem Record.PassedOn.count {state : RetryState} {f : Failure} {r r' : Record}
    (h : r.PassedOn state f r') (k : RetryHeader) : r'.headers.count k.key = 1 := by
  obtain ⟨due, hh⟩ := h.headers
  rw [hh, RetryState.count_nextHop]

theorem Record.PassedOn.foreign {state : RetryState} {f : Failure} {r r' : Record}
    (h : r.PassedOn state f r') : r'.headers.foreign = r.headers.foreign := by
  obtain ⟨due, hh⟩ := h.headers
  rw [hh, RetryState.foreign_apply]

end Redelivery
