import Redelivery.Registry
import Redelivery.Text.Quoted
import Redelivery.Worker

/-!
# Container

Endpoints and the workers that serve them.  An endpoint is a group of consumers on some main
topics; `Container.addEndpoint` binds these to their configuration.  `Container.start` creates the
topics of all chains and makes the workers of every stage from which records are taken.
-/

namespace Redelivery

/-- Consumers of some main topics. -/
structure Endpoint where
  id : String
  group : String
  topics : List String
  /-- How many workers a stage has, in place of the default. -/
  concurrency : Option Nat := none
  deriving Repr, DecidableEq

/-- An endpoint as its name and the values it was made from. -/
def Endpoint.describe (e : Endpoint) : String :=
  let concurrency := match e.concurrency with
    | some n => s!"Some({n})"
    | none => "None"
  "RetryEndpoint \x7b id: " ++ Text.quoted e.id ++ ", group_id: " ++ Text.quoted e.group ++
    ", topics: " ++ Text.quotedList e.topics ++ ", concurrency: " ++ concurrency ++ ", .. \x7d"

/-- How often and with which pauses a publication that failed is tried again. -/
structure PublishRetry where
  leastPause : Millis := 50
  longestPause : Millis := 2000
  tries : Nat := 5
  deriving Repr, DecidableEq

/-- How workers take records and pass them on. -/
structure DispatcherSettings where
  /-- How long a worker looks for a record at a time. -/
  pollTimeout : Millis := 500
  /-- How many workers a stage has unless the endpoint or its configuration says it. -/
  defaultConcurrency : Nat := 1
  publishRetry : PublishRetry := {}
  /-- The first pause after a record that could not be passed on. -/
  redeliveryInitial : Millis := 1000
  redeliveryMost : Millis := 30000
  /-- After how many pauses they no longer grow. -/
  redeliveryRetries : UInt32 := 10
  deriving Repr, DecidableEq

/-- The pauses before records are taken again: each is twice the one before. -/
def DispatcherSettings.redelivery (s : DispatcherSettings) : Backoff.Repeating :=
  .new (.exponential s.redeliveryInitial 2.0 s.redeliveryMost) s.redeliveryRetries

/-- Endpoints with their configurations. -/
structure Container where
  registry : Registry
  settings : DispatcherSettings := {}
  endpoints : List (Endpoint × Configuration) := []

/-- What a start comes to: the workers that were started run also if it failed. -/
structure Startup where
  workers : List Worker
  broker : Broker
  outcome : Except ContainerError Unit

namespace Container

/-- Adds an endpoint and binds its topics. -/
def addEndpoint (c : Container) (e : Endpoint) :
    Except ConfigurationError Configuration × Container :=
  if e.concurrency = some 0 then (.error (.invalid (.endpointWithoutWorkers e.id)), c)
  else
    match c.registry.bindTopics e.topics with
    | (.error err, registry) => (.error err, { c with registry })
    | (.ok configuration, registry) =>
        (.ok configuration,
          { c with registry, endpoints := c.endpoints ++ [(e, configuration)] })

/-- The first request for each name. -/
def firstRequests (seen : List String) : List TopicRequest → List TopicRequest
  | [] => []
  | t :: ts =>
      if seen.contains t.name then firstRequests seen ts
      else t :: firstRequests (t.name :: seen) ts

/-- The topics that are created at the start. -/
def topicsToCreate (c : Container) : List TopicRequest :=
  firstRequests [] (c.endpoints.flatMap fun (e, configuration) =>
    e.topics.flatMap configuration.topicsToCreate)

/-- How many workers a stage has. -/
def workerCount (c : Container) (e : Endpoint) (configuration : Configuration) (s : Stage) : Nat :=
  let wanted := if s.isMain then e.concurrency else configuration.concurrency <|> e.concurrency
  max (wanted.getD c.settings.defaultConcurrency) 1

/-- The stages of an endpoint from which records are taken. -/
def consumedStages (configuration : Configuration) :
    List (Fin configuration.chain.stages.length) :=
  (List.finRange configuration.chain.stages.length).filter fun i =>
    (configuration.chain.stages.get i).role.isConsumed

/-- Worker `n` of a stage. -/
def worker (c : Container) (e : Endpoint) (configuration : Configuration)
    (i : Fin configuration.chain.stages.length) (consumer : Consumer) (n : Nat) : Worker where
  name := e.id ++ (configuration.chain.stages.get i).suffix ++ "-" ++ toString n
  configuration := configuration
  stageIndex := i
  consumer := consumer
  pollTimeout := c.settings.pollTimeout
  republishTries := c.settings.publishRetry.tries
  redelivery := c.settings.redelivery

/-- The workers of a stage. -/
def stageWorkers (c : Container) (e : Endpoint) (configuration : Configuration)
    (i : Fin configuration.chain.stages.length) : Except ContainerError (List Worker) := do
  let s := configuration.chain.stages.get i
  let topics := e.topics.map s.topicFor
  for topic in topics do
    let _ ← (c.registry.locate topic).mapError ContainerError.configuration
  let consumer ← (Consumer.join (e.group ++ s.suffix) topics).mapError ContainerError.broker
  return (List.range (c.workerCount e configuration s)).map
    (c.worker e configuration i consumer)

/-- The workers of all stages up to the first that cannot be served. -/
def collect : List (Except ContainerError (List Worker)) →
    List Worker × Except ContainerError Unit
  | [] => ([], .ok ())
  | .error e :: _ => ([], .error e)
  | .ok ws :: rest =>
      let (more, outcome) := collect rest
      (ws ++ more, outcome)

/-- Creates the topics and starts the workers. -/
def start (c : Container) (b : Broker) : Startup :=
  let (workers, outcome) := collect (c.endpoints.flatMap fun (e, configuration) =>
    (consumedStages configuration).map (c.stageWorkers e configuration))
  { workers, broker := b.createTopics c.topicsToCreate, outcome }

end Container

end Redelivery
