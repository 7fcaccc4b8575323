import Redelivery.BrokerError
import Redelivery.Number.Time
import Redelivery.Shutdown

/-!
# DueWait

Waiting until a record is due.  The consumer is paused meanwhile and sleeps in slices of one
length, so that it notices a shutdown and can show the broker that it is alive: after every slice
but the first, as long as the record is not due.  However the wait ends, the consumer is resumed.

A wait is two functions.  `DueWait.begin` starts it, and `DueWait.wake` says what happens at the
end of a slice, or earlier when the shutdown signal changes.
-/

namespace Redelivery

/-- What a wait needs of the consumer that holds the record. -/
class Pausable (σ : Type) where
  pause : σ → Except BrokerError Unit × σ
  resume : σ → Except BrokerError Unit × σ
  keepAlive : σ → Except BrokerError Unit × σ

/-- How a wait ends. -/
inductive WaitOutcome where
  /-- The record is due. -/
  | due
  /-- The shutdown comes first; the record is not to be acknowledged. -/
  | interrupted
  deriving Repr, DecidableEq

/-- A wait between two slices of sleep. -/
structure DueWait where
  due : Instant
  /-- The length of the slices. -/
  slice : Millis
  /-- Whether no slice is over yet. -/
  isFirst : Bool
  deriving Repr, DecidableEq

namespace DueWait

/-- The longest wait that is made in short slices. -/
def shortWait : Int := 500

/-- The length of the slices of a wait. -/
def sliceFor (remaining : Instant) : Millis := if shortWait < remaining.toInt then 100 else 10

/-- The wait after one more slice. -/
def again (w : DueWait) : DueWait := { w with isFirst := false }

variable {σ : Type} [Pausable σ]

/-- Resumes the consumer.  An error of the wait hides one of resuming. -/
def finish (result : Except BrokerError WaitOutcome) (x : σ) :
    Except BrokerError WaitOutcome × σ :=
  let (resumed, x) := Pausable.resume x
  match result, resumed with
  | .ok _, .error e => (.error e, x)
  | result, _ => (result, x)

/-- Starts to wait for `due`: a wait to sleep for, or at once its end. -/
def begin (due now : Instant) (s : Shutdown) (x : σ) :
    (DueWait ⊕ Except BrokerError WaitOutcome) × σ :=
  let remaining := due.since now
  if remaining.toInt ≤ 0 then (.inr (.ok .due), x)
  else
    match Pausable.pause x with
    | (.error e, x) => (.inr (.error e), x)
    | (.ok _, x) =>
        if s.requested then
          let (r, x) := finish (.ok .interrupted) x
          (.inr r, x)
        else (.inl ⟨due, sliceFor remaining, true⟩, x)

/-- Shows the broker that the consumer is alive, except after the first slice. -/
def showAlive (w : DueWait) (x : σ) : Except BrokerError Unit × σ :=
  if w.isFirst then (.ok (), x) else Pausable.keepAlive x

/-- What happens when a slice ends, or when the signal changes that was set `seen` times before:
the end of the wait, or `none` if it goes on. -/
def wake (w : DueWait) (now : Instant) (s : Shutdown) (seen : Nat) (x : σ) :
    Option (Except BrokerError WaitOutcome) × σ :=
  let finishWith (r : Except BrokerError WaitOutcome) (x : σ) :=
    let (r, x) := finish r x
    (some r, x)
  if s.stops seen then finishWith (.ok .interrupted) x
  else if w.due.toInt ≤ now.toInt then finishWith (.ok .due) x
  else
    match w.showAlive x with
    | (.error e, x) => finishWith (.error e) x
    | (.ok _, x) => if s.requested then finishWith (.ok .interrupted) x else (none, x)

end DueWait

end Redelivery
