import Redelivery.Pattern.Flaw
import Redelivery.Text.Quoted

/-!
# ConfigurationError

What can be wrong with retry configurations and with the topics that they are bound to.  All of it
shows before the first record is processed, and each message names what to mend.
-/

namespace Redelivery

/-- What makes a configuration invalid by itself. -/
inductive Defect where
  /-- A chain that does not start with the main topic. -/
  | mainNotFirst
  | severalMains
  | severalDefaultDeadLetters
  | reroutingWithoutDefault
  | noAttempts
  | tooFewPartitions (partitions : Int)
  | emptyDeadLetterSuffix
  | includedAndExcluded
  | noConcurrency
  | endpointWithoutWorkers (endpoint : String)
  /-- A reason in words. -/
  | because (reason : String)
  deriving Repr, DecidableEq

/-- The text of a defect. -/
def Defect.message : Defect → String
  | .mainNotFirst => "retry chain must start with the main topic"
  | .severalMains => "retry chain has more than one main stage"
  | .severalDefaultDeadLetters => "retry chain has more than one default DLT"
  | .reroutingWithoutDefault => "rerouting DLTs require a default DLT"
  | .noAttempts => "max_attempts must be at least 1"
  | .tooFewPartitions n => s!"topic partitions must be at least 1, got {n}"
  | .emptyDeadLetterSuffix => "DLT suffix must not be empty"
  | .includedAndExcluded => "retry_on and not_retry_on are mutually exclusive"
  | .noConcurrency => "concurrency must be at least 1"
  | .endpointWithoutWorkers id => s!"endpoint {id} has zero concurrency"
  | .because reason => reason

/-- Why a configuration cannot be built, found or bound. -/
inductive ConfigurationError where
  /-- More than one configuration admits all of the topics. -/
  | ambiguousScope (topics : List String) (count : Nat)
  /-- Two rules route the same kind of failure. -/
  | overlappingRouting (kind first second : String)
  | unconfiguredTopic (topic : String)
  | duplicateSuffix (suffix : String)
  | duplicateTopic (topic : String)
  | invalidPattern (pattern : String) (flaw : PatternFlaw)
  | invalid (defect : Defect)
  deriving Repr, DecidableEq

/-- The text of a configuration error. -/
def ConfigurationError.message : ConfigurationError → String
  | .ambiguousScope topics count =>
      "Topics " ++ Text.quotedList topics ++
        s!" are claimed by {count} retry configurations; exactly one may apply"
  | .overlappingRouting kind first second =>
      s!"Failure kind '{kind}' is routed by both '{first}' and '{second}'"
  | .unconfiguredTopic topic => s!"No retry configuration covers topic '{topic}'"
  | .duplicateSuffix suffix => s!"Duplicate destination suffix '{suffix}' in retry chain"
  | .duplicateTopic topic => s!"Topic '{topic}' is bound to more than one retry chain stage"
  | .invalidPattern pattern flaw => s!"Invalid topic pattern '{pattern}': " ++ flaw.message
  | .invalid defect => "Invalid retry configuration: " ++ defect.message

end Redelivery
