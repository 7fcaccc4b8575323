import Redelivery.Chain.Spec
import Redelivery.DeadLetter
import Redelivery.Scope

/-!
# Configuration

How failed records of some topics are treated.  A `Plan` is what one writes down, with a value for
everything that is left out; `Plan.build` checks it and makes the `Configuration` that workers
run.  The checks come in a fixed order, and the first that fails is reported.
-/

namespace Redelivery

/-- How failed records of the topics in a scope are treated. -/
structure Configuration where
  name : String
  resolver : Resolver
  scope : Scope
  handler : Option DeadLetterHandler
  strategy : DeadLetterStrategy
  /-- How many workers a retry stage has. -/
  concurrency : Option Nat
  creation : TopicCreation

namespace Configuration

/-- The stages that records go through. -/
def chain (c : Configuration) : Chain := c.resolver.chain

/-- Whether the configuration governs all of the topics. -/
def covers (c : Configuration) (topics : List String) : Bool := c.scope.admitsAll topics

/-- The topics of the chain of a main topic that are created unless they exist. -/
def topicsToCreate (c : Configuration) (mainTopic : String) : List TopicRequest :=
  if c.creation.enabled then
    c.chain.stages.map fun s =>
      ⟨s.topicFor mainTopic, s.creation.partitions, s.creation.replication⟩
  else []

end Configuration

/-- A configuration as it is written down. -/
structure Plan where
  name : Option String := none
  backoff : Backoff.Policy := Backoff.standard
  maxAttempts : UInt32 := 3
  timeout : Option Millis := none
  /-- The only kinds of failures that are retried, if there are any. -/
  retryOn : List String := []
  /-- The kinds of failures that are not retried. -/
  notRetryOn : List String := []
  traverse : Bool := false
  fatal : NameSet := FatalKinds.standard
  allowed : List String := []
  denied : List String := []
  /-- The kind of patterns that do not say it. -/
  patternKind : PatternKind := .exact
  caseSensitive : Bool := true
  creation : TopicCreation := {}
  routing : List RoutingRule := []
  handler : Option DeadLetterHandler := none
  strategy : DeadLetterStrategy := .failOnError
  retrySuffix : String := "-retry"
  deadLetterSuffix : String := "-dlt"
  suffixing : Suffixing := .index
  reuseTopic : Bool := false
  concurrency : Option Nat := none

namespace Plan

/-- The name of a plan that has none: the patterns of its topics, or a star. -/
def displayName (p : Plan) : String :=
  p.name.getD (if p.allowed.isEmpty then "*" else String.intercalate "," p.allowed)

/-- The classifier that a plan asks for. -/
def classifier (p : Plan) : Classifier where
  fatal := p.fatal
  included := NameSet.ofList p.retryOn
  excluded := NameSet.ofList p.notRetryOn
  traverse := p.traverse

/-- What the chain of a plan is built from. -/
def chainSpec (p : Plan) (routing : Routing) : ChainSpec where
  backoff := p.backoff
  maxAttempts := p.maxAttempts
  timeout := p.timeout
  retrySuffix := p.retrySuffix
  deadLetterSuffix := p.deadLetterSuffix
  suffixing := p.suffixing
  reuseTopic := p.reuseTopic
  keepsDeadLetters := p.strategy ≠ .noDeadLetters
  creation := p.creation
  routing := routing

/-- The configuration of a plan, whose delays are drawn with `draw`. -/
def build (p : Plan) (draw : UInt32 → Nat) : Except ConfigurationError Configuration := do
  if !p.retryOn.isEmpty && !p.notRetryOn.isEmpty then throw (.invalid .includedAndExcluded)
  if p.concurrency = some 0 then throw (.invalid .noConcurrency)
  let scope ← Scope.ofTexts p.allowed p.denied p.patternKind p.caseSensitive
  let routing ← Routing.ofList p.routing
  let chain ← (p.chainSpec routing).build draw
  return {
    name := p.displayName
    resolver := { chain, classifier := p.classifier, timeout := p.timeout }
    scope
    handler := p.handler
    strategy := p.strategy
    concurrency := p.concurrency
    creation := p.creation }

end Plan

end Redelivery
