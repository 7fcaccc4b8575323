import Redelivery.DueWait

/-!
# DueWait — Script

A wait that is run by itself, against a clock that goes on only while it sleeps, a consumer that
takes note of its calls and refuses some of them, and a shutdown signal that changes at given
times.
-/

namespace Redelivery

/-- The calls that a wait makes. -/
inductive WaitCall where
  | pause
  | resume
  | keepAlive
  deriving Repr, DecidableEq

/-- The name of a call. -/
def WaitCall.name : WaitCall → String
  | .pause => "pause"
  | .resume => "resume"
  | .keepAlive => "keep_alive"

/-- A consumer that takes note of its calls. -/
structure ScriptedConsumer where
  /-- The time since the start. -/
  elapsed : Nat := 0
  /-- The calls with their times, in order. -/
  calls : List (WaitCall × Nat) := []
  /-- Which of the calls of a kind are refused, counted from one. -/
  refused : List (WaitCall × Nat) := []
  deriving Repr, DecidableEq

namespace ScriptedConsumer

/-- Takes note of a call and answers it. -/
def call (x : ScriptedConsumer) (c : WaitCall) : Except BrokerError Unit × ScriptedConsumer :=
  let count := x.calls.countP (·.1 = c) + 1
  let x' := { x with calls := x.calls ++ [(c, x.elapsed)] }
  if x.refused.contains (c, count) then (.error (.consume (c.name ++ " refused")), x')
  else (.ok (), x')

instance : Pausable ScriptedConsumer where
  pause x := x.call .pause
  resume x := x.call .resume
  keepAlive x := x.call .keepAlive

end ScriptedConsumer

/-- What happens to a shutdown signal. -/
inductive SignalChange where
  | send (requested : Bool)
  | abandon
  deriving Repr, DecidableEq

/-- The signal after a change. -/
def SignalChange.applyTo (s : Shutdown) : SignalChange → Shutdown
  | .send requested => s.send requested
  | .abandon => s.abandon

namespace DueWait

/-- The reading of a clock that started at `start`. -/
def reading (start : Instant) (elapsed : Nat) : Instant := .nearest (start.toInt + elapsed)

/-- When a sleeper wakes: at the end of the slice, or before it when the signal changes, or at once
when the signal is abandoned. -/
def wakeTime (w : DueWait) (changes : List (Nat × SignalChange)) (s : Shutdown) (elapsed : Nat) :
    Nat :=
  let sliceEnd := elapsed + w.slice.toNat
  match s.abandoned, changes with
  | true, _ => elapsed
  | false, (t, _) :: _ => max elapsed (min t sliceEnd)
  | false, [] => sliceEnd

/-- Sleeps and wakes until the wait is over, but not more than `times` times; the changes of the
signal are in the order of their times. -/
def sleepOn (start : Instant) (w : DueWait) (changes : List (Nat × SignalChange)) (s : Shutdown)
    (x : ScriptedConsumer) : (times : Nat) →
    Option (Except BrokerError WaitOutcome) × ScriptedConsumer
  | 0 => (none, x)
  | times + 1 =>
      let elapsed := w.wakeTime changes s x.elapsed
      let s' := (changes.takeWhile (·.1 ≤ elapsed)).foldl (fun s c => c.2.applyTo s) s
      match w.wake (reading start elapsed) s' s.version { x with elapsed } with
      | (some r, x) => (some r, x)
      | (none, x) => sleepOn start w.again (changes.dropWhile (·.1 ≤ elapsed)) s' x times

/-- How often a wait wakes at most: each time the clock has gone on, or a change of the signal is
over, or the signal is abandoned for good. -/
def wakeBound (due start : Instant) (changes : List (Nat × SignalChange)) : Nat :=
  (due.since start).toInt.toNat + changes.length + 2

/-- A whole wait that starts at `start`: its end, and what the consumer has noted. -/
def run (due start : Instant) (changes : List (Nat × SignalChange)) (s : Shutdown)
    (x : ScriptedConsumer) : Option (Except BrokerError WaitOutcome) × ScriptedConsumer :=
  match begin due start s x with
  | (.inr r, x) => (some r, x)
  | (.inl w, x) => sleepOn start w changes s x (wakeBound due start changes)

end DueWait

end Redelivery
