import Redelivery.Chain.Routing
import Redelivery.Number.Time

/-!
# Chain — Stage

One stage of a retry chain.  A stage stands for one topic per main topic: its name is that of the
main topic with the stage's suffix.
-/

namespace Redelivery

/-- What a stage is for. -/
inductive Role where
  /-- The topic that users publish to. -/
  | main
  | retry
  /-- One topic for all retries, which a record enters again until its attempts are used up. -/
  | reusableRetry
  /-- A retry that can only be reached when the time for all attempts has passed. -/
  | retryPastTimeout
  | deadLetter
  /-- Dead letters of certain kinds of failures. -/
  | reroutedDeadLetter
  deriving Repr, DecidableEq

namespace Role

/-- The name of a role. -/
def name : Role → String
  | .main => "main"
  | .retry => "retry"
  | .reusableRetry => "reusable-retry"
  | .retryPastTimeout => "retry-timeout-expired"
  | .deadLetter => "dlt"
  | .reroutedDeadLetter => "rerouting-dlt"

/-- Whether records wait here for another attempt. -/
def isRetry : Role → Bool
  | .retry | .reusableRetry | .retryPastTimeout => true
  | _ => false

/-- Whether records end here. -/
def isDeadLetter : Role → Bool
  | .deadLetter | .reroutedDeadLetter => true
  | _ => false

/-- Whether workers take records from here; dead letters are only written. -/
def isConsumed (r : Role) : Bool := !r.isDeadLetter

end Role

/-- Whether and how topics are created that do not exist. -/
structure TopicCreation where
  enabled : Bool := true
  partitions : Int := 1
  replication : Int := -1
  deriving Repr, DecidableEq

/-- No creation of topics. -/
def TopicCreation.disabled : TopicCreation := { enabled := false }

/-- One stage of a chain. -/
structure Stage where
  suffix : String
  /-- How long a record waits here before it is processed. -/
  delay : Millis
  role : Role
  /-- How many attempts the whole chain allows; every stage carries the number. -/
  budget : UInt32
  creation : TopicCreation
  /-- The suffix of the rule that this stage serves. -/
  routingSuffix : Option String
  routing : Routing
  deriving Repr, DecidableEq

namespace Stage

/-- The topic of this stage for a main topic. -/
def topicFor (s : Stage) (mainTopic : String) : String := mainTopic ++ s.suffix

/-- Whether this is the main stage. -/
def isMain (s : Stage) : Bool := s.role = .main

/-- The partition for a record that comes from partition `p`: the same one if this stage has as
many, else the broker's choice. -/
def preservedPartition (s : Stage) (p : Int) : Option Int :=
  if 0 ≤ p ∧ p < s.creation.partitions then some p else none

end Stage

end Redelivery
