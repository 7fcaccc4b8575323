import Redelivery.BrokerError
import Redelivery.ConfigurationError

/-!
# DispatchError

Why a worker does not acknowledge a record, and why workers cannot be started.
-/

namespace Redelivery

/-- Why a record is not acknowledged. -/
inductive DispatchError where
  /-- The shutdown came before the record was due. -/
  | interrupted
  /-- The record could not be passed on to a topic. -/
  | republish (topic : String) (cause : BrokerError)
  | broker (cause : BrokerError)
  deriving Repr, DecidableEq

/-- The text of a dispatch error. -/
def DispatchError.message : DispatchError → String
  | .interrupted => "Interrupted while waiting for the record's due time"
  | .republish topic cause => s!"Republish to '{topic}' failed: " ++ cause.message
  | .broker cause => cause.message

/-- Why workers cannot be started. -/
inductive ContainerError where
  | configuration (cause : ConfigurationError)
  | broker (cause : BrokerError)
  deriving Repr, DecidableEq

/-- The text of a container error. -/
def ContainerError.message : ContainerError → String
  | .configuration cause => "Configuration error: " ++ cause.message
  | .broker cause => "Transport error: " ++ cause.message

end Redelivery
