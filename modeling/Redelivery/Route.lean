import Redelivery.Chain
import Redelivery.Classifier

/-!
# Route

Where a record goes that could not be processed.  A chain, a classifier and a time limit decide
(`Resolver.next`): a record whose time is up goes to the dead letters in general; one whose failure
is fatal, or whose attempts are used up, to the dead letters of its kind of failure; any other to
the next retry stage.  A chain without dead letters discards them instead.
-/

namespace Redelivery

/-- Why a record is given up. -/
inductive TerminalReason where
  | fatal
  | attemptsExhausted
  | timeoutExpired
  | missingRetryHeaders
  deriving Repr, DecidableEq

/-- The text of a reason. -/
def TerminalReason.message : TerminalReason → String
  | .fatal => "fatal failure"
  | .attemptsExhausted => "attempts exhausted"
  | .timeoutExpired => "timeout expired"
  | .missingRetryHeaders => "missing retry headers"

/-- Where a record goes. -/
inductive Route where
  | retry (stage : Stage)
  | deadLetter (stage : Stage) (reason : TerminalReason)
  | discard (reason : TerminalReason)
  deriving Repr, DecidableEq

/-- Whether the record is given up. -/
def Route.isTerminal : Route → Bool
  | .retry _ => false
  | _ => true

/-- What decides where records go. -/
structure Resolver where
  chain : Chain
  classifier : Classifier
  timeout : Option Millis
  deriving Repr, DecidableEq

namespace Resolver

/-- Whether the time of a record is up. -/
def isTimedOut (r : Resolver) (firstAttempt now : Instant) : Bool :=
  match r.timeout with
  | some t => t.toSpan < (now.since firstAttempt).toInt
  | none => false

/-- The way to the dead letters in general. -/
def toDeadLetters (r : Resolver) (reason : TerminalReason) : Route :=
  match r.chain.deadLetter? with
  | some s => .deadLetter s reason
  | none => .discard reason

/-- The way to the dead letters for a failure. -/
def deadLetterFor (r : Resolver) (f : Failure) (reason : TerminalReason) : Route :=
  let routed := (r.chain.main.routing.suffixFor? f r.classifier.traverse).bind
    r.chain.reroutedDeadLetter?
  match routed with
  | some s => .deadLetter s reason
  | none => r.toDeadLetters reason

/-- The retry stage after a stage: the stage itself if it is entered again and again. -/
def retryAfter? (r : Resolver) (current : Stage) : Option Stage :=
  if current.role = .reusableRetry then r.chain.bySuffix? current.suffix
  else (r.chain.indexOf? current.suffix).bind r.chain.nextRetryAfter?

/-- Where a record goes that failed on stage `current`, `attempts` times by now. -/
def next (r : Resolver) (current : Stage) (attempts : UInt32) (firstAttempt : Instant)
    (f : Failure) (now : Instant) : Route :=
  if r.isTimedOut firstAttempt now || current.role = .retryPastTimeout then
    r.toDeadLetters .timeoutExpired
  else if r.classifier.classify f = .fatal then r.deadLetterFor f .fatal
  else if current.role.isDeadLetter then r.deadLetterFor f .attemptsExhausted
  else
    match (if attempts < current.budget then r.retryAfter? current else none) with
    | some s => .retry s
    | none => r.deadLetterFor f .attemptsExhausted

/-- The routes of a record that fails again and again, at most `limit` of them: it stands on
`current`, its attempt `n` is the one that fails next, attempt `k` fails with `failures k` at
`clock k`, and each retry leads to the stage of the next attempt. -/
def walkFrom (r : Resolver) (firstAttempt : Instant) (failures : Nat → Failure)
    (clock : Nat → Instant) : (limit n : Nat) → (current : Stage) → List Route
  | 0, _, _ => []
  | limit + 1, n, current =>
      match r.next current (UInt32.ofNatClamp n) firstAttempt (failures n) (clock n) with
      | .retry s => .retry s :: walkFrom r firstAttempt failures clock limit (n + 1) s
      | route => [route]

/-- The routes of a record that fails on the main stage and on every stage it is sent to. -/
def walk (r : Resolver) (firstAttempt : Instant) (failures : Nat → Failure)
    (clock : Nat → Instant) (limit : Nat) : List Route :=
  r.walkFrom firstAttempt failures clock limit 1 r.chain.main

end Resolver

end Redelivery
