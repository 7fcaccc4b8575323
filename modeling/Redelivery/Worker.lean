import Redelivery.Broker.Consumer
import Redelivery.Clock
import Redelivery.Configuration
import Redelivery.DispatchError
import Redelivery.DueWait
import Redelivery.Text.Affix

/-!
# Worker

A worker takes the records of one stage of a chain, one at a time.  It waits until a record is due,
hands it to the user's code, passes a record that failed on to the stage that the chain names, and
acknowledges it.  A record that it cannot pass on is given back and taken again after a pause.

A worker is a machine: its `Phase` says what it does next, and `Worker.step` does it.  Each step
makes at most one call to the broker, so that the steps of several workers, and what happens around
them, may follow each other in any order.
-/

namespace Redelivery

instance : Pausable Membership where
  pause m := (.ok (), m.pause)
  resume m := (.ok (), m.resume)
  keepAlive m := (.ok (), m.keepAlive)

/-- What a worker does next. -/
inductive Phase where
  /-- Looks whether to stop, and else for a record. -/
  | idle
  /-- Takes a record, unless the deadline has passed or there is no more to take than when the
  broker had announced something `seen` times. -/
  | polling (deadline : Nat) (seen : Option Nat)
  /-- Reads the state of a record. -/
  | opening (r : Record)
  /-- Sleeps until a record is due. -/
  | waiting (r : Record) (state : RetryState) (wait : DueWait) (wakeAt : Nat)
  /-- Hands a record to the user's code. -/
  | handling (r : Record) (state : RetryState)
  /-- Publishes a copy of a record; after a failure it may try some more times. -/
  | publishing (r : Record) (copy : Outgoing) (more : Nat)
  /-- Acknowledges a record. -/
  | committing (r : Record)
  /-- Gives a record back. -/
  | returning (r : Record) (why : DispatchError)
  /-- Sleeps before records are taken again. -/
  | pausing (wakeAt : Nat)
  /-- Leaves the group. -/
  | closing
  | stopped
  deriving DecidableEq

/-- A worker on one stage of a configuration's chain. -/
structure Worker where
  name : String
  configuration : Configuration
  stageIndex : Fin configuration.chain.stages.length
  consumer : Consumer
  pollTimeout : Millis
  /-- How often a publication that failed is tried again. -/
  republishTries : Nat
  /-- The pauses before records are taken again that could not be passed on. -/
  redelivery : Backoff.Repeating
  /-- How often the shutdown signal was set when the worker last noticed it. -/
  seenSignal : Nat := 0
  phase : Phase := .idle

/-- What surrounds a worker when it makes a step. -/
structure Surroundings where
  clock : Clock
  shutdown : Shutdown
  /-- How the user's code fails on a record, if it does. -/
  handle : Record → Option Failure
  /-- What a handler answers that is given a dead letter. -/
  bury : DeadLetterHandler → DeadLetter → Except DeadLetterError Unit

/-- What user code was given in a step. -/
inductive WorkerEvent where
  /-- A record at a time, and how the user's code failed on it. -/
  | handled (r : Record) (time : Instant) (failure : Option Failure)
  /-- A handler, the dead letter that it was given, and its answer. -/
  | buried (handler : DeadLetterHandler) (letter : DeadLetter)
      (answer : Except DeadLetterError Unit)

/-- A step's result. -/
structure WorkerStep where
  worker : Worker
  broker : Broker
  events : List WorkerEvent := []

namespace Worker

/-- The stage that the worker is on. -/
def stage (w : Worker) : Stage := w.configuration.chain.stages.get w.stageIndex

/-- The main topic of a record on the worker's stage. -/
def mainTopic (w : Worker) (r : Record) : String := Text.withoutSuffix r.topic w.stage.suffix

/-- The copy of a record for another stage. -/
def copyFor (r : Record) (destination : Stage) (topic : String) (state : RetryState) :
    Outgoing where
  topic := topic
  partition := destination.preservedPartition r.partition
  key := r.key
  payload := r.payload
  headers := state.apply r.headers

/-- The state of a record, if its headers or the stage say it. -/
def stateOf (w : Worker) (now : Instant) (r : Record) : Except HeaderError RetryState :=
  if w.stage.isMain then .ok (.first r now)
  else
    match RetryState.read r.headers with
    | .ok (some state) => .ok state
    | .ok none => .error (.missing .originalTopic)
    | .error e => .error e

/-- What is next for a record that is given up: a handler takes the dead letter, or it is published
to its destination. -/
def giveUp (w : Worker) (s : Surroundings) (r : Record) (destination : Stage) (state : RetryState)
    (failure : Failure) (reason : TerminalReason) : Phase × List WorkerEvent :=
  let topic := destination.topicFor (w.mainTopic r)
  let publish := Phase.publishing r (copyFor r destination topic state) w.republishTries
  match w.configuration.handler with
  | none => (publish, [])
  | some h =>
      let letter : DeadLetter := ⟨r, state, failure, reason, topic⟩
      let answer := s.bury h letter
      let next := match answer, w.configuration.strategy with
        | .error _, .alwaysRetryOnError => publish
        | _, _ => .committing r
      (next, [.buried h letter answer])

/-- What is next for a record whose headers do not say its state.  It counts as attempted once, and
its origin is the record itself on the main topic.  The time of the first attempt and that of the
failure are two readings of the clock that stand for one: a step takes no time, so that both say the
same. -/
def reject (w : Worker) (s : Surroundings) (r : Record) (violation : HeaderError) :
    Phase × List WorkerEvent :=
  let now := s.clock.now
  let failure := Failure.new FatalKinds.missingRetryHeaders violation.message
  let state := { RetryState.first r now with originalTopic := w.mainTopic r }.nextHop failure now
  match w.configuration.resolver.deadLetterFor failure .missingRetryHeaders with
  | .deadLetter destination reason => w.giveUp s r destination state failure reason
  | _ => (.committing r, [])

/-- What is next for a record that the user's code failed on. -/
def routeFailure (w : Worker) (s : Surroundings) (r : Record) (state : RetryState)
    (failure : Failure) : Phase × List WorkerEvent :=
  let now := s.clock.now
  match w.configuration.resolver.next w.stage (nextCount state.attempts) state.firstAttempt
      failure now with
  | .retry destination =>
      let copy := copyFor r destination (destination.topicFor (w.mainTopic r))
        (state.nextHop failure (now.after destination.delay))
      (.publishing r copy w.republishTries, [])
  | .deadLetter destination reason =>
      w.giveUp s r destination (state.nextHop failure now) failure reason
  | .discard _ => (.committing r, [])

/-- What is next when a wait has ended. -/
def afterWait (r : Record) (state : RetryState) : Except BrokerError WaitOutcome → Phase
  | .ok .due => .handling r state
  | .ok .interrupted => .returning r .interrupted
  | .error e => .returning r (.broker e)

/-- The worker in its next phase, which may have changed the consumer and the broker. -/
def continueWith (w : Worker) (m : Membership) (phase : Phase) (events : List WorkerEvent) :
    WorkerStep :=
  { worker := { w with consumer := m.consumer, phase }, broker := m.broker, events }

/-- Looks whether to stop, and else for a record until the poll's time is up. -/
def stepIdle (w : Worker) (s : Surroundings) : Phase :=
  if s.shutdown.requested then .closing
  else .polling (s.clock.elapsed + w.pollTimeout.toNat) none

/-- Whether there may be more to take than when the broker had announced something `seen` times. -/
def mayTake (b : Broker) : Option Nat → Bool
  | none => true
  | some n => n < b.notices

/-- Takes a record, or goes back to the top when the signal changed or the time is up. -/
def stepPolling (w : Worker) (s : Surroundings) (m : Membership) (deadline : Nat)
    (seen : Option Nat) : WorkerStep :=
  if s.shutdown.isNewer w.seenSignal then
    { w with seenSignal := s.shutdown.version }.continueWith m .idle []
  else if mayTake m.broker seen then
    match m.take with
    | (some r, m) => w.continueWith m (.opening r) []
    | (none, m) => w.continueWith m (.polling deadline (some m.broker.notices)) []
  else if s.shutdown.abandoned || deadline ≤ s.clock.elapsed then w.continueWith m .idle []
  else w.continueWith m (.polling deadline seen) []

/-- Reads the state of a record and starts to wait until it is due. -/
def stepOpening (w : Worker) (s : Surroundings) (m : Membership) (r : Record) : WorkerStep :=
  match w.stateOf s.clock.now r with
  | .error violation =>
      let (phase, events) := w.reject s r violation
      w.continueWith m phase events
  | .ok state =>
      match state.dueAt with
      | none => w.continueWith m (.handling r state) []
      | some due =>
          match DueWait.begin due s.clock.now s.shutdown m with
          | (.inr result, m) => w.continueWith m (afterWait r state result) []
          | (.inl wait, m) =>
              let wakeAt := s.clock.elapsed + wait.slice.toNat
              w.continueWith m (.waiting r state wait wakeAt) []

/-- Wakes at the end of a slice, or when the signal changes. -/
def stepWaiting (w : Worker) (s : Surroundings) (m : Membership) (r : Record) (state : RetryState)
    (wait : DueWait) : WorkerStep :=
  let woken := { w with seenSignal := s.shutdown.version }
  match wait.wake s.clock.now s.shutdown w.seenSignal m with
  | (some result, m) => woken.continueWith m (afterWait r state result) []
  | (none, m) =>
      woken.continueWith m
        (.waiting r state wait.again (s.clock.elapsed + wait.slice.toNat)) []

/-- Hands a record to the user's code. -/
def stepHandling (w : Worker) (s : Surroundings) (r : Record) (state : RetryState) :
    Phase × List WorkerEvent :=
  let failure := s.handle r
  let (phase, events) := match failure with
    | none => (.committing r, [])
    | some f => w.routeFailure s r state f
  (phase, .handled r s.clock.now failure :: events)

/-- Publishes a copy of a record. -/
def stepPublishing (w : Worker) (s : Surroundings) (m : Membership) (r : Record) (copy : Outgoing)
    (more : Nat) : WorkerStep :=
  let (result, broker) := m.broker.publish s.clock.now copy
  let phase := match result, more with
    | .ok _, _ => .committing r
    | .error e, more + 1 =>
        if e.isTransient then .publishing r copy more else .returning r (.republish copy.topic e)
    | .error e, 0 => .returning r (.republish copy.topic e)
  w.continueWith { m with broker } phase []

/-- Gives a record back, and then stops or pauses. -/
def stepReturning (w : Worker) (s : Surroundings) (m : Membership) (r : Record)
    (why : DispatchError) : WorkerStep :=
  let m := m.rewind r.topic r.partition r.offset
  match why with
  | .interrupted => w.continueWith m .closing []
  | _ =>
      let (interval, redelivery) := w.redelivery.next fun _ => 0
      { w with redelivery }.continueWith m (.pausing (s.clock.elapsed + interval.toNat)) []

/-- Wakes from a pause. -/
def stepPausing (w : Worker) (s : Surroundings) (m : Membership) : WorkerStep :=
  let stops := if s.shutdown.wakes w.seenSignal then s.shutdown.stops w.seenSignal
    else s.shutdown.requested
  let woken := { w with seenSignal := s.shutdown.version }
  woken.continueWith m (if stops then .closing else .idle) []

/-- Whether a step would get the worker on; if not, it waits for its surroundings to change. -/
def isReady (w : Worker) (s : Surroundings) (b : Broker) : Bool :=
  match w.phase with
  | .polling deadline seen =>
      mayTake b seen || s.shutdown.wakes w.seenSignal || deadline ≤ s.clock.elapsed
  | .waiting _ _ _ wakeAt | .pausing wakeAt =>
      s.shutdown.wakes w.seenSignal || wakeAt ≤ s.clock.elapsed
  | .stopped => false
  | _ => true

/-- When a worker that waits goes on at the latest. -/
def deadline? (w : Worker) : Option Nat :=
  match w.phase with
  | .polling deadline _ => some deadline
  | .waiting _ _ _ wakeAt | .pausing wakeAt => some wakeAt
  | _ => none

/-- One step of a worker; a worker that is not ready stays as it is. -/
def step (w : Worker) (s : Surroundings) (b : Broker) : WorkerStep :=
  let m : Membership := ⟨w.consumer, b⟩
  if !w.isReady s b then ⟨w, b, []⟩
  else
    match w.phase with
    | .idle => w.continueWith m (w.stepIdle s) []
    | .polling deadline seen => w.stepPolling s m deadline seen
    | .opening r => w.stepOpening s m r
    | .waiting r state wait _ => w.stepWaiting s m r state wait
    | .handling r state =>
        let (phase, events) := w.stepHandling s r state
        w.continueWith m phase events
    | .publishing r copy more => w.stepPublishing s m r copy more
    | .committing r =>
        { w with redelivery := w.redelivery.reset }.continueWith
          (m.commit r.topic r.partition r.offset) .idle []
    | .returning r why => w.stepReturning s m r why
    | .pausing _ => w.stepPausing s m
    | .closing => w.continueWith m.close .stopped []
    | .stopped => ⟨w, b, []⟩

end Worker

end Redelivery
