import Redelivery.Broker

/-!
# Broker — Consumer

Members of consumer groups.  A member takes one record at a time from the partitions of its
topics, none of a partition of which the group holds a record already, and starts each time one
partition further on.  A record that it took is acknowledged (`commit`) or given back (`rewind`).
A member that is paused takes nothing.
-/

namespace Redelivery

/-- A member of a consumer group. -/
structure Consumer where
  group : String
  topics : List String
  paused : Bool := false
  /-- How often it has looked for a record. -/
  rotation : UInt64 := 0
  /-- The partitions whose records it holds. -/
  held : List (String × Int) := []
  deriving Repr, DecidableEq

/-- A member together with the broker that it belongs to. -/
structure Membership where
  consumer : Consumer
  broker : Broker
  deriving DecidableEq

namespace Membership

/-- The partitions that the member can take from, in order. -/
def candidates (m : Membership) : List (String × Nat) :=
  m.consumer.topics.flatMap fun t =>
    (List.range (m.broker.partitionCount t)).map fun p => (t, p)

/-- A partition as the member's group sees it. -/
def cursorId (m : Membership) (topic : String) (partition : Int) : CursorId :=
  ⟨m.consumer.group, topic, partition⟩

/-- The offset and the entry that the group is handed next from a partition, unless it holds a
record of the partition or has seen all. -/
def available? (m : Membership) (topic : String) (partition : Nat) : Option (Int × Entry) :=
  let c := m.broker.cursor (m.cursorId topic partition)
  if c.inFlight then none
  else ((m.broker.log topic partition)[c.next.toNat]?).map fun e => (c.next, e)

/-- The first record to be had from a list of partitions. -/
def firstAvailable? (m : Membership) (partitions : List (String × Nat)) : Option Record :=
  partitions.findSome? fun (t, p) =>
    (m.available? t p).map fun (offset, e) => Broker.recordOf t p offset.toNat e

/-- The list from position `n` on, counted around its end, and then up to there. -/
def rotate {α : Type} (l : List α) (n : Nat) : List α :=
  l.drop (n % l.length) ++ l.take (n % l.length)

/-- The membership after a record of it was handed out. -/
def handOut (m : Membership) (r : Record) : Membership :=
  let id := m.cursorId r.topic r.partition
  let c := m.broker.cursor id
  { consumer := { m.consumer with held := m.consumer.held ++ [(r.topic, r.partition)] }
    broker := m.broker.setCursor id { c with next := c.next + 1, inFlight := true } }

/-- Takes a record if there is one. -/
def take (m : Membership) : Option Record × Membership :=
  if m.consumer.paused || m.candidates.isEmpty then (none, m)
  else
    let rotation := m.consumer.rotation + 1
    let m := { m with consumer := { m.consumer with rotation } }
    match m.firstAvailable? (rotate m.candidates rotation.toNat) with
    | some r => (some r, m.handOut r)
    | none => (none, m)

/-- The membership with another cursor for a partition of which it no longer holds a record. -/
def release (m : Membership) (topic : String) (partition : Int) (c : Cursor) : Membership :=
  { consumer :=
      { m.consumer with held := m.consumer.held.filter (· ≠ (topic, partition)) }
    broker := (m.broker.setCursor (m.cursorId topic partition) c).announce }

/-- Acknowledges the record of a partition at an offset, and all before it. -/
def commit (m : Membership) (topic : String) (partition offset : Int) : Membership :=
  let c := m.broker.cursor (m.cursorId topic partition)
  m.release topic partition
    { next := max c.next (offset + 1), committed := max c.committed (offset + 1)
      inFlight := false }

/-- Gives the record of a partition at an offset back to the group, which is handed it again
unless it has been acknowledged. -/
def rewind (m : Membership) (topic : String) (partition offset : Int) : Membership :=
  let c := m.broker.cursor (m.cursorId topic partition)
  m.release topic partition { c with next := max offset c.committed, inFlight := false }

/-- Stops taking records. -/
def pause (m : Membership) : Membership :=
  { m with consumer := { m.consumer with paused := true } }

/-- Goes on taking records. -/
def resume (m : Membership) : Membership :=
  { consumer := { m.consumer with paused := false }, broker := m.broker.announce }

/-- Shows the broker that the member is alive. -/
def keepAlive (m : Membership) : Membership :=
  { m with broker := { m.broker with keepAlives := m.broker.keepAlives + 1 } }

/-- Gives back what the group was handed from a partition after its last acknowledgement. -/
def giveBack (group : String) (b : Broker) (held : String × Int) : Broker :=
  let id : CursorId := ⟨group, held.1, held.2⟩
  let c := b.cursor id
  b.setCursor id { c with next := c.committed, inFlight := false }

/-- Leaves the group and gives back all records that are held. -/
def close (m : Membership) : Membership :=
  { consumer := { m.consumer with held := [] }
    broker := (m.consumer.held.foldl (giveBack m.consumer.group) m.broker).announce }

end Membership

/-- A new member of a group, which has to name at least one topic. -/
def Consumer.join (group : String) (topics : List String) : Except BrokerError Consumer :=
  if topics.isEmpty then .error (.subscribe s!"group {group} subscribed to no topics")
  else .ok { group, topics }

end Redelivery
