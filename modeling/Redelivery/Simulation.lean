import Redelivery.Container

/-!
# Simulation

Workers that run against a broker in memory and a clock that goes on only when no worker can.  The
user's code is a list of rules.  Workers take turns in the order in which they became ready, each
until it waits; those that wait go on in the order in which they began to.
-/

namespace Redelivery

/-- How the user's code treats the records that fit: it fails, or else accepts them. -/
structure HandlerRule where
  topic : Option String := none
  payload : Option Bytes := none
  partition : Option Int := none
  /-- How often the rule may still be used, if that is limited. -/
  uses : Option Nat := none
  failure : Option Failure := none

namespace HandlerRule

/-- Whether a record fits the rule and the rule may be used. -/
def fits (h : HandlerRule) (r : Record) : Bool :=
  h.topic.all (· = r.topic) && h.payload.all (some · = r.payload) &&
    h.partition.all (· = r.partition) && h.uses ≠ some 0

/-- The answer of the first rule that fits, and the rules after its use. -/
def answer (rules : List HandlerRule) (r : Record) : Option Failure × List HandlerRule :=
  match rules with
  | [] => (none, [])
  | h :: rest =>
      if h.fits r then (h.failure, { h with uses := h.uses.map (· - 1) } :: rest)
      else
        let (failure, rest) := answer rest r
        (failure, h :: rest)

end HandlerRule

/-- Workers, the broker and the clock. -/
structure Simulation where
  clock : Clock
  shutdown : Shutdown := {}
  broker : Broker
  workers : List Worker
  rules : List HandlerRule := []
  /-- The workers that are ready, in the order of their turns. -/
  ready : List Nat
  /-- The workers that wait, in the order in which they began to. -/
  waiting : List Nat := []
  /-- What user code was given, the last first. -/
  events : List WorkerEvent := []

/-- What can be seen of a simulation from outside. -/
structure Snapshot where
  now : Instant
  /-- How many records each topic has. -/
  counts : List (String × Nat)
  /-- How far the groups of all workers are, where they have begun. -/
  committed : List (CursorId × Int)
  isRunning : Bool

namespace Simulation

/-- The workers of a container that has started. -/
def ofStartup (clock : Clock) (s : Startup) (rules : List HandlerRule) : Simulation where
  clock := clock
  broker := s.broker
  workers := s.workers
  rules := rules
  ready := List.range s.workers.length

/-- What a worker sees around it. -/
def surroundings (sim : Simulation) : Surroundings where
  clock := sim.clock
  shutdown := sim.shutdown
  handle r := (HandlerRule.answer sim.rules r).1
  bury h _ := h.answer

/-- Whether a worker can go on. -/
def isReady (sim : Simulation) (i : Nat) : Bool :=
  sim.workers[i]?.any (·.isReady sim.surroundings sim.broker)

/-- The simulation after something was given to user code. -/
def record (sim : Simulation) (e : WorkerEvent) : Simulation :=
  let rules := match e with
    | .handled r _ _ => (HandlerRule.answer sim.rules r).2
    | .buried .. => sim.rules
  { sim with rules, events := e :: sim.events }

/-- One step of a worker. -/
def stepWorker (sim : Simulation) (i : Nat) : Simulation :=
  match sim.workers[i]? with
  | none => sim
  | some w =>
      let next := w.step sim.surroundings sim.broker
      next.events.foldl record
        { sim with workers := sim.workers.set i next.worker, broker := next.broker }

/-- Gives turns to the workers that wait no longer. -/
def wake (sim : Simulation) : Simulation :=
  let (woken, waiting) := sim.waiting.partition sim.isReady
  { sim with ready := sim.ready ++ woken, waiting }

/-- Lets the workers take their turns until all wait, or a number of steps is made. -/
def settle (sim : Simulation) : (steps : Nat) → Simulation
  | 0 => sim
  | steps + 1 =>
      match sim.ready with
      | [] => sim
      | i :: rest =>
          if sim.isReady i then (sim.stepWorker i).settle steps
          else
            let sim := { sim with ready := rest }.wake
            { sim with waiting := sim.waiting ++ [i] }.settle steps

/-- How many steps may follow each other while the clock stands still. -/
def patience : Nat := 1000000

/-- When the first of the waiting workers goes on. -/
def nextDeadline? (sim : Simulation) : Option Nat :=
  (sim.workers.filterMap Worker.deadline?).min?

/-- Lets the workers run until a time, at which they do not yet go on. -/
def runUntil (sim : Simulation) (target : Nat) : (times : Nat) → Simulation
  | 0 => { sim with clock := sim.clock.advanceTo target }
  | times + 1 =>
      let sim := sim.wake.settle patience
      match sim.nextDeadline? with
      | some d =>
          if d < target then { sim with clock := sim.clock.advanceTo d }.runUntil target times
          else { sim with clock := sim.clock.advanceTo target }
      | none => { sim with clock := sim.clock.advanceTo target }

/-- Lets the workers run for some milliseconds. -/
def run (sim : Simulation) (ms : Nat) : Simulation :=
  if ms = 0 then sim else sim.runUntil (sim.clock.elapsed + ms) ms

/-- Publishes a record from outside. -/
def publish (sim : Simulation) (r : Outgoing) : Except BrokerError Unit × Simulation :=
  let (result, broker) := sim.broker.publish sim.clock.now r
  (result, { sim with broker })

/-- Refuses the next publications. -/
def refuseNext (sim : Simulation) (n : Nat) : Simulation :=
  { sim with broker := sim.broker.refuseNext n }

/-- Requests the shutdown and lets all workers stop. -/
def stop (sim : Simulation) : Simulation :=
  { sim with shutdown := sim.shutdown.send true }.wake.settle patience

/-- The partitions of a topic whose cursors are shown. -/
def shownPartitions : Nat := 8

/-- The partitions of which the group of a worker takes records. -/
def cursorIds (w : Worker) : List CursorId :=
  w.consumer.topics.flatMap fun t =>
    (List.range shownPartitions).map fun p : Nat => ⟨w.consumer.group, t, (p : Int)⟩

/-- What can be seen from outside. -/
def snapshot (sim : Simulation) : Snapshot where
  now := sim.clock.now
  counts := sim.broker.topicNames.map fun t => (t, (sim.broker.records t).length)
  committed :=
    ((sim.workers.flatMap cursorIds).eraseDups.map fun id =>
      (id, sim.broker.committed id)).filter (·.2 ≠ 0)
  isRunning := sim.workers.any (·.phase ≠ .stopped)

/-- The records that the user's code was given, with their times. -/
def handled (sim : Simulation) : List (Instant × Record) :=
  sim.events.reverse.filterMap fun
    | .handled r time _ => some (time, r)
    | .buried .. => none

/-- The dead letters that handlers were given, with their answers. -/
def buried (sim : Simulation) : List (DeadLetter × Except DeadLetterError Unit) :=
  sim.events.reverse.filterMap fun
    | .buried _ letter answer => some (letter, answer)
    | .handled .. => none

/-- How many dead letters reached the receiver of a channel. -/
def forwarded (sim : Simulation) : Nat :=
  sim.events.countP fun
    | .buried (.channel _) _ (.ok _) => true
    | _ => false

end Simulation

end Redelivery
