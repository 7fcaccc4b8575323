/-!
# BrokerError

What can go wrong between a client and a broker.
-/

namespace Redelivery

/-- Why a record could not be published. -/
inductive PublishFailure where
  /-- The broker was told to refuse it. -/
  | injected (topic : String)
  | outOfRange (partition : Int) (topic : String) (partitions : Nat)
  /-- A reason in words. -/
  | because (reason : String)
  deriving Repr, DecidableEq

/-- The text of a failure to publish. -/
def PublishFailure.message : PublishFailure → String
  | .injected topic => s!"injected failure publishing to {topic}"
  | .outOfRange p topic n => s!"partition {p} out of range for {topic} ({n} partitions)"
  | .because reason => reason

/-- What went wrong with a broker. -/
inductive BrokerError where
  | connection (reason : String)
  | publish (failure : PublishFailure)
  | subscribe (reason : String)
  | consume (reason : String)
  | commit (reason : String)
  | admin (reason : String)
  | closed
  deriving Repr, DecidableEq

namespace BrokerError

/-- The text of a broker error. -/
def message : BrokerError → String
  | .connection r => "Connection failed: " ++ r
  | .publish f => "Publish failed: " ++ f.message
  | .subscribe r => "Subscribe failed: " ++ r
  | .consume r => "Consume failed: " ++ r
  | .commit r => "Commit failed: " ++ r
  | .admin r => "Topic administration failed: " ++ r
  | .closed => "Consumer closed"

/-- Whether another try may help: the broker could not be reached or did not take a record. -/
def isTransient : BrokerError → Bool
  | .connection _ | .publish _ => true
  | _ => false

end BrokerError

end Redelivery
