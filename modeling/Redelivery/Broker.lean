import Redelivery.BrokerError
import Redelivery.Number.SipHash
import Redelivery.Record
import Redelivery.Table

/-!
# Broker

A broker in memory: topics with partitions, each of which is a log that only grows, and for every
group and partition a cursor that says what the group has taken and what it has acknowledged.  A
topic that does not exist is created when something is published to it.

Every change that may let a waiting consumer go on is announced: `notices` counts the
announcements, and a consumer that waits looks again when the count has grown.
-/

namespace Redelivery

/-- What a log keeps of a record; its coordinates are its place. -/
structure Entry where
  key : Option Bytes
  payload : Option Bytes
  headers : Headers
  timestamp : Instant
  deriving DecidableEq

/-- The log of a partition. -/
abbrev Log := List Entry

/-- How far a group is in a partition. -/
structure Cursor where
  /-- The offset to hand out next. -/
  next : Int := 0
  /-- The offset before which all is acknowledged. -/
  committed : Int := 0
  /-- Whether a record is handed out and not yet acknowledged or given back. -/
  inFlight : Bool := false
  deriving Repr, DecidableEq

/-- A partition as a group sees it. -/
structure CursorId where
  group : String
  topic : String
  partition : Int
  deriving Repr, DecidableEq

/-- A broker in memory. -/
structure Broker where
  topics : Table String (List Log) := .empty
  cursors : Table CursorId Cursor := .empty
  /-- The topics whose creation was asked for, in order. -/
  requested : List TopicRequest := []
  /-- How many of the next publications are refused. -/
  refusing : Nat := 0
  /-- How often consumers showed that they are alive. -/
  keepAlives : Nat := 0
  /-- How often waiting consumers were told to look again. -/
  notices : Nat := 0
  deriving DecidableEq

namespace Broker

/-- A broker without topics. -/
def empty : Broker := {}

/-- The partitions of a topic, of which there are none if the topic does not exist. -/
def partitions (b : Broker) (topic : String) : List Log := (b.topics.get? topic).getD []

/-- How many partitions a topic has. -/
def partitionCount (b : Broker) (topic : String) : Nat := (b.partitions topic).length

/-- The log of a partition. -/
def log (b : Broker) (topic : String) (partition : Nat) : Log :=
  ((b.partitions topic)[partition]?).getD []

/-- Where a group is in a partition. -/
def cursor (b : Broker) (id : CursorId) : Cursor := (b.cursors.get? id).getD {}

/-- The broker with another cursor. -/
def setCursor (b : Broker) (id : CursorId) (c : Cursor) : Broker :=
  { b with cursors := b.cursors.set id c }

/-- Tells waiting consumers to look again. -/
def announce (b : Broker) : Broker := { b with notices := b.notices + 1 }

/-- The broker with a topic of that many partitions, but at least one, unless the topic exists. -/
def ensureTopic (b : Broker) (topic : String) (partitions : Int) : Broker :=
  match b.topics.get? topic with
  | some _ => b
  | none => { b with topics := b.topics.set topic (List.replicate (max partitions 1).toNat []) }

/-- Creates the topics that do not exist, and takes note of all that were asked for. -/
def createTopics (b : Broker) (requests : List TopicRequest) : Broker :=
  requests.foldl (fun b r =>
    { b.ensureTopic r.name r.partitions with requested := b.requested ++ [r] }) b

/-- Refuses the next `n` publications. -/
def refuseNext (b : Broker) (n : Nat) : Broker := { b with refusing := n }

/-- The partition for a key out of `n`: all records of a key have the same, and records without a
key the first. -/
def partitionForKey (key : Option Bytes) (n : Nat) : Nat :=
  match key with
  | some k =>
      if 1 < n then
        (SipHash.hash (SipHash.wordBytes (UInt64.ofNat k.size) ++ k.data.toList)).toNat % n
      else 0
  | none => 0

/-- The partition out of `n` for a record, unless it asks for one that is not there. -/
def choosePartition (r : Outgoing) (n : Nat) : Except PublishFailure Nat :=
  match r.partition with
  | none => .ok (partitionForKey r.key n)
  | some p => if 0 ≤ p ∧ p.toNat < n then .ok p.toNat else .error (.outOfRange p r.topic n)

/-- The broker with one more entry in a log. -/
def append (b : Broker) (topic : String) (partition : Nat) (e : Entry) : Broker :=
  { b with topics := b.topics.set topic ((b.partitions topic).modify partition (· ++ [e])) }

/-- Publishes a record at a time.  The topic is created first, so that it exists also when its
partition turns out to be missing. -/
def publish (b : Broker) (now : Instant) (r : Outgoing) : Except BrokerError Unit × Broker :=
  match b.refusing with
  | n + 1 => (.error (.publish (.injected r.topic)), { b with refusing := n })
  | 0 =>
      let b := b.ensureTopic r.topic 1
      match choosePartition r (b.partitionCount r.topic) with
      | .error e => (.error (.publish e), b)
      | .ok p => (.ok (), (b.append r.topic p ⟨r.key, r.payload, r.headers, now⟩).announce)

/-- An entry with its coordinates. -/
def recordOf (topic : String) (partition offset : Nat) (e : Entry) : Record where
  topic := topic
  partition := partition
  offset := offset
  key := e.key
  payload := e.payload
  headers := e.headers
  timestamp := some e.timestamp

/-- All records of a topic, partition by partition. -/
def records (b : Broker) (topic : String) : List Record :=
  (b.partitions topic).zipIdx.flatMap fun (log, p) =>
    log.zipIdx.map fun (e, offset) => recordOf topic p offset e

/-- The names of all topics, in the order of their creation. -/
def topicNames (b : Broker) : List String := b.topics.keys

/-- The offset that a group reads next after all that it has acknowledged. -/
def committed (b : Broker) (id : CursorId) : Int := (b.cursor id).committed

end Broker

end Redelivery
