import Redelivery.RetryState
import Redelivery.Route

/-!
# DeadLetter

Records that are given up.  They are published to a dead-letter topic, or handed to a handler
instead if there is one; what happens when the handler fails is a matter of strategy.
-/

namespace Redelivery

/-- What happens to records that are given up. -/
inductive DeadLetterStrategy where
  /-- A record whose handler fails is acknowledged all the same. -/
  | failOnError
  /-- A record whose handler fails is published instead. -/
  | alwaysRetryOnError
  /-- There are no dead letters: records are discarded. -/
  | noDeadLetters
  deriving Repr, DecidableEq

/-- The name of a strategy. -/
def DeadLetterStrategy.name : DeadLetterStrategy → String
  | .failOnError => "fail_on_error"
  | .alwaysRetryOnError => "always_retry_on_error"
  | .noDeadLetters => "no_dlt"

/-- A record that is given up. -/
structure DeadLetter where
  /-- The record as it was on its last stage. -/
  record : Record
  /-- Its retry state after the failure that ended it. -/
  state : RetryState
  failure : Failure
  reason : TerminalReason
  /-- The topic to which it would be published. -/
  destination : String
  deriving DecidableEq

/-- Why a handler did not take a dead letter. -/
inductive DeadLetterError where
  | handlerFailed (reason : String)
  | channelClosed
  deriving Repr, DecidableEq

/-- The text of a dead-letter error. -/
def DeadLetterError.message : DeadLetterError → String
  | .handlerFailed reason => "Dead-letter handler failed: " ++ reason
  | .channelClosed => "Dead-letter channel closed"

/-- What takes dead letters. -/
inductive DeadLetterHandler where
  /-- Takes note of them. -/
  | logging
  /-- Passes them on to a receiver, as long as there is one. -/
  | channel (isOpen : Bool)
  /-- Refuses them for a reason. -/
  | refusing (reason : String)
  deriving Repr, DecidableEq

/-- What a handler answers. -/
def DeadLetterHandler.answer : DeadLetterHandler → Except DeadLetterError Unit
  | .logging | .channel true => .ok ()
  | .channel false => .error .channelClosed
  | .refusing reason => .error (.handlerFailed reason)

end Redelivery
