import Redelivery.Failure
import Redelivery.Number.Decimal
import Redelivery.Record

/-!
# RetryState

Where a record stands on its way through a retry chain.  The record's headers are the only place
where this is kept: nine of them, one for each value of `RetryHeader`.  `RetryState.apply` writes
a state into headers, `RetryState.read` reads it back.

A record without any of the headers that say where it came from and how often it was attempted
has no state, which is no error; from the first of these headers on, all required ones must be
there and must be legible.
-/

namespace Redelivery

/-- The headers that hold a retry state. -/
inductive RetryHeader where
  | originalTopic
  | originalPartition
  | originalOffset
  | attempts
  | firstAttempt
  | dueAt
  | failureKind
  | causeKinds
  | failureMessage
  deriving Repr, DecidableEq

namespace RetryHeader

/-- The key under which a header stands. -/
def key : RetryHeader → String
  | originalTopic => "detour-original-topic"
  | originalPartition => "detour-original-partition"
  | originalOffset => "detour-original-offset"
  | attempts => "detour-attempts"
  | firstAttempt => "detour-first-attempt-timestamp"
  | dueAt => "detour-due-at"
  | failureKind => "detour-exception-kind"
  | causeKinds => "detour-exception-cause-kinds"
  | failureMessage => "detour-exception-message"

/-- All of them, in the order in which they are written. -/
def all : List RetryHeader :=
  [originalTopic, originalPartition, originalOffset, attempts, firstAttempt, dueAt, failureKind,
    causeKinds, failureMessage]

theorem mem_all (h : RetryHeader) : h ∈ all := by cases h <;> decide

theorem key_injective {h k : RetryHeader} (e : h.key = k.key) : h = k := by
  revert e; cases h <;> cases k <;> decide

end RetryHeader

/-- What can be wrong with the headers of a retry state. -/
inductive HeaderError where
  /-- A required header is not there. -/
  | missing (header : RetryHeader)
  /-- The last value of a header is not what belongs there. -/
  | invalid (header : RetryHeader) (value : String)
  deriving Repr, DecidableEq

/-- The text of a header error. -/
def HeaderError.message : HeaderError → String
  | .missing h => s!"Missing retry header '{h.key}'"
  | .invalid h value => s!"Invalid value for retry header '{h.key}': {value}"

/-- The retry state of one record. -/
structure RetryState where
  originalTopic : String
  originalPartition : Int32
  originalOffset : Int64
  /-- How often the record was attempted before. -/
  attempts : UInt32
  /-- When the record was first attempted. -/
  firstAttempt : Instant
  /-- Before when the record is not attempted again. -/
  dueAt : Option Instant
  failureKind : Option String
  /-- The kinds of all levels of the last failure, outermost first. -/
  causeKinds : List String
  failureMessage : Option String
  deriving Repr, DecidableEq

namespace RetryState

/-- The state of a record that is attempted for the first time. -/
def first (r : Record) (now : Instant) : RetryState where
  originalTopic := r.topic
  originalPartition := Int32.ofInt r.partition
  originalOffset := Int64.ofInt r.offset
  attempts := 0
  firstAttempt := now
  dueAt := none
  failureKind := none
  causeKinds := []
  failureMessage := none

/-- The state after one more attempt, which ended in `failure`; the next may begin at `due`. -/
def nextHop (s : RetryState) (failure : Failure) (due : Instant) : RetryState :=
  { s with
    attempts := nextCount s.attempts
    dueAt := some due
    failureKind := some failure.kind
    causeKinds := failure.kinds
    failureMessage := some failure.message }

/-- The headers with the text of one of the state's values. -/
def put (headers : Headers) (h : RetryHeader) (value : String) : Headers :=
  headers.insert h.key (Utf8.encode value)

/-- The headers with the text of a value, or as they are without one. -/
def put? (headers : Headers) (h : RetryHeader) : Option String → Headers
  | some value => put headers h value
  | none => headers

/-- The headers with the state written into them.  A missing due time removes its header; other
values that are missing leave theirs. -/
def apply (s : RetryState) (headers : Headers) : Headers :=
  let headers := put headers .originalTopic s.originalTopic
  let headers := put headers .originalPartition (toString s.originalPartition.toInt)
  let headers := put headers .originalOffset (toString s.originalOffset.toInt)
  let headers := put headers .attempts (toString s.attempts.toNat)
  let headers := put headers .firstAttempt (toString s.firstAttempt.toInt)
  let headers := match s.dueAt with
    | some due => put headers .dueAt (toString due.toInt)
    | none => headers.remove RetryHeader.dueAt.key
  let headers := put? headers .failureKind s.failureKind
  let headers := if s.causeKinds.isEmpty then headers
    else put headers .causeKinds (String.intercalate "," s.causeKinds)
  put? headers .failureMessage s.failureMessage

/-- The text of a header that need not be there. -/
def optionalText (headers : Headers) (h : RetryHeader) : Except HeaderError (Option String) :=
  match headers.get? h.key with
  | none => .ok none
  | some raw =>
      match Utf8.decode? raw with
      | some s => .ok (some s)
      | none => .error (.invalid h (Utf8.decodeLossy raw))

/-- The number in a header that need not be there. -/
def optional {α : Type} (read? : String → Option α) (headers : Headers) (h : RetryHeader) :
    Except HeaderError (Option α) := do
  match ← optionalText headers h with
  | none => return none
  | some s =>
      match read? s with
      | some a => return some a
      | none => throw (.invalid h s)

/-- A value that has to be there. -/
def required {α : Type} (h : RetryHeader) (value : Except HeaderError (Option α)) :
    Except HeaderError α := do
  match ← value with
  | some a => return a
  | none => throw (.missing h)

/-- The names between the commas of a text, without empty ones. -/
def splitNames (s : String) : List String :=
  ((s.toList.splitOn ',').filter (!·.isEmpty)).map String.ofList

/-- Whether headers announce a retry state. -/
def isPresent (headers : Headers) : Bool :=
  [RetryHeader.originalTopic, .originalOffset, .attempts].any fun h =>
    (headers.get? h.key).isSome

/-- The state in the headers, if they announce one. -/
def read (headers : Headers) : Except HeaderError (Option RetryState) := do
  unless isPresent headers do return none
  let originalTopic ← required .originalTopic (optionalText headers .originalTopic)
  let number {α : Type} (h : RetryHeader) (read? : String → Option α) : Except HeaderError α :=
    required h (optional read? headers h)
  let originalOffset ← number .originalOffset Decimal.readInt64?
  let originalPartition ← number .originalPartition Decimal.readInt32?
  let attempts ← number .attempts Decimal.readUInt32?
  let firstAttempt ← number .firstAttempt Decimal.readInt64?
  let dueAt ← optional Decimal.readInt64? headers .dueAt
  return some
    { originalTopic, originalPartition, originalOffset, attempts, firstAttempt, dueAt
      failureKind := headers.text? RetryHeader.failureKind.key
      causeKinds := ((headers.text? RetryHeader.causeKinds.key).map splitNames).getD []
      failureMessage := headers.text? RetryHeader.failureMessage.key }

end RetryState

end Redelivery
