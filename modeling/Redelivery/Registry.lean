import Redelivery.Configuration

/-!
# Registry

The configurations of a program and the topics that are bound to them.  A lookup never picks one
of several: a list of topics belongs to a configuration only if no other one admits all of them.
Binding the main topics of an endpoint binds every topic of their chains, one by one in order, and
stops at the first that is bound already.
-/

namespace Redelivery

/-- A topic of a chain: which configuration, main topic and stage it stands for. -/
structure Binding where
  configuration : Configuration
  mainTopic : String
  stageIndex : Fin configuration.chain.stages.length

namespace Binding

/-- The stage of a binding. -/
def stage (b : Binding) : Stage := b.configuration.chain.stages.get b.stageIndex

/-- The topic of a binding. -/
def topic (b : Binding) : String := b.stage.topicFor b.mainTopic

/-- The bindings of the chain of a main topic, in order. -/
def ofMainTopic (c : Configuration) (mainTopic : String) : List Binding :=
  (List.finRange c.chain.stages.length).map fun i => ⟨c, mainTopic, i⟩

end Binding

/-- Configurations in the order of registration, and bindings of topics, the last one first. -/
structure Registry where
  configurations : List Configuration := []
  bindings : List (String × Binding) := []

namespace Registry

/-- The registry with one more configuration. -/
def register (r : Registry) (c : Configuration) : Registry :=
  { r with configurations := r.configurations ++ [c] }

/-- The only configuration that governs all of the topics, if any does. -/
def find (r : Registry) (topics : List String) :
    Except ConfigurationError (Option Configuration) :=
  match r.configurations.filter (·.covers topics) with
  | [] => .ok none
  | [c] => .ok (some c)
  | cs => .error (.ambiguousScope topics cs.length)

/-- The topic to report when no configuration governs all of the topics: the first that none
admits, or else the first. -/
def uncovered (r : Registry) (topics : List String) : String :=
  let isAdmitted := fun t => r.configurations.any (·.scope.admits t)
  (topics.find? (!isAdmitted ·)).getD (topics.headD "")

/-- The only configuration that governs all of the topics. -/
def require (r : Registry) (topics : List String) : Except ConfigurationError Configuration := do
  match ← r.find topics with
  | some c => return c
  | none => throw (.unconfiguredTopic (r.uncovered topics))

/-- The binding of a topic. -/
def binding? (r : Registry) (topic : String) : Option Binding := r.bindings.lookup topic

/-- The stage that a topic stands for. -/
def locate (r : Registry) (topic : String) : Except ConfigurationError Binding :=
  match r.binding? topic with
  | some b => .ok b
  | none => .error (.unconfiguredTopic topic)

/-- Binds topics one by one up to the first that is bound already, and reports that one. -/
def bindAll (r : Registry) : List Binding → Option ConfigurationError × Registry
  | [] => (none, r)
  | b :: bs =>
      match r.binding? b.topic with
      | some _ => (some (.duplicateTopic b.topic), r)
      | none => bindAll { r with bindings := (b.topic, b) :: r.bindings } bs

/-- Binds all topics of the chains of main topics to the configuration that governs these. -/
def bindTopics (r : Registry) (mainTopics : List String) :
    Except ConfigurationError Configuration × Registry :=
  match r.require mainTopics with
  | .error e => (.error e, r)
  | .ok c =>
      match r.bindAll (mainTopics.flatMap (Binding.ofMainTopic c)) with
      | (some e, r) => (.error e, r)
      | (none, r) => (.ok c, r)

/-- All topics that are bound, in increasing order. -/
def boundTopics (r : Registry) : NameSet := NameSet.ofList (r.bindings.map Prod.fst)

end Registry

end Redelivery
