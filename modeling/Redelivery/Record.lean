import Redelivery.Headers
import Redelivery.Number.Time

/-!
# Record

What goes through a broker: a record as it is handed out, with its coordinates, and a record to
publish, whose partition the broker may choose.
-/

namespace Redelivery

/-- A record handed out by a broker. -/
structure Record where
  topic : String
  partition : Int
  offset : Int
  key : Option Bytes
  payload : Option Bytes
  headers : Headers
  timestamp : Option Instant
  deriving DecidableEq

/-- A record to publish. -/
structure Outgoing where
  topic : String
  /-- The partition asked for; without one the broker chooses by the key. -/
  partition : Option Int := none
  key : Option Bytes := none
  payload : Option Bytes := none
  headers : Headers := .empty
  deriving DecidableEq

/-- A topic to be created unless it exists. -/
structure TopicRequest where
  name : String
  partitions : Int
  /-- How many copies a broker keeps; `-1` leaves it to the broker. -/
  replication : Int
  deriving Repr, DecidableEq

end Redelivery
