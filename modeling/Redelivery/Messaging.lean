import Redelivery.Broker

/-!
# Messaging

Which broker a program uses.  Only the one in memory is at hand here.
-/

namespace Redelivery

/-- A kind of broker. -/
inductive MessagingKind where
  | memory
  | kafka
  deriving Repr, DecidableEq

/-- The name of a kind of broker. -/
def MessagingKind.name : MessagingKind → String
  | .memory => "memory"
  | .kafka => "kafka"

/-- Why a broker cannot be used. -/
inductive TransportError where
  /-- The program was built without what is needed to reach such a broker. -/
  | kafkaNotBuilt
  deriving Repr, DecidableEq

/-- The text of a transport error. -/
def TransportError.message : TransportError → String
  | .kafkaNotBuilt =>
      "Kafka support requires the 'kafka' feature. Rebuild with --features kafka"

/-- A broker of the kind. -/
def MessagingKind.connect : MessagingKind → Except TransportError Broker
  | .memory => .ok .empty
  | .kafka => .error .kafkaNotBuilt

end Redelivery
