import Redelivery.Container
import Redelivery.Messaging

/-!
# Settings

A whole configuration as it is written in a file, with a value for everything that is left out, and
the registry that it describes.  `RetrySettings.plan` says what each entry asks for.
-/

namespace Redelivery

/-- How to reach a broker. -/
structure KafkaSettings where
  servers : String := "localhost:9092"
  saslUsername : Option String := none
  saslPassword : Option String := none
  saslMechanism : Option String := none
  securityProtocol : Option String := none
  certificate : Option String := none
  /-- After how many milliseconds without a sign of life a consumer is given up. -/
  sessionTimeout : UInt32 := 45000
  deriving Repr, DecidableEq

/-- Which broker is used. -/
structure MessagingSettings where
  kind : MessagingKind := .memory
  kafka : KafkaSettings := {}
  deriving Repr, DecidableEq

/-- Changes to the kinds that no attempt can help. -/
structure FatalSettings where
  added : List String := []
  removed : List String := []
  deriving Repr, DecidableEq

/-- The kinds after the changes; those that are both added and removed are not among them. -/
def FatalSettings.kinds (s : FatalSettings) : NameSet :=
  s.removed.foldl NameSet.erase (FatalKinds.standard.insertAll s.added)

/-- How failed records of some topics are treated, as it is written. -/
structure RetrySettings where
  name : Option String := none
  backoff : Backoff.Policy := Backoff.standard
  maxAttempts : UInt32 := 3
  /-- The time for all attempts in milliseconds, which a negative number does not limit. -/
  timeout : Option Int64 := none
  retryOn : List String := []
  notRetryOn : List String := []
  traverse : Bool := false
  included : List String := []
  excluded : List String := []
  patternKind : PatternKind := .exact
  caseSensitive : Bool := true
  creation : TopicCreation := {}
  retrySuffix : String := "-retry"
  deadLetterSuffix : String := "-dlt"
  suffixWithDelay : Bool := false
  reuseTopic : Bool := false
  /-- The kinds for each dead-letter suffix, in the order of the suffixes. -/
  routing : List (String × List String) := []
  strategy : DeadLetterStrategy := .failOnError
  concurrency : Option Nat := none

namespace RetrySettings

/-- The name under which errors are reported. -/
def displayName (s : RetrySettings) : String :=
  s.name.getD (String.intercalate "," s.included)

/-- The plan that the settings write down.  Where no topics are created, how they would be created
is left at its default. -/
def plan (s : RetrySettings) (fatal : NameSet) : Plan where
  name := s.name
  backoff := s.backoff
  maxAttempts := s.maxAttempts
  timeout := s.timeout.bind fun t =>
    if 0 ≤ t.toInt then some (UInt64.ofNat t.toInt.toNat) else none
  retryOn := s.retryOn
  notRetryOn := s.notRetryOn
  traverse := s.traverse
  fatal := fatal
  allowed := s.included
  denied := s.excluded
  patternKind := s.patternKind
  caseSensitive := s.caseSensitive
  creation := if s.creation.enabled then s.creation else .disabled
  routing := s.routing.map fun (suffix, kinds) => ⟨suffix, NameSet.ofList kinds⟩
  strategy := s.strategy
  retrySuffix := s.retrySuffix
  deadLetterSuffix := s.deadLetterSuffix
  suffixing := if s.suffixWithDelay then .delayValue else .index
  reuseTopic := s.reuseTopic
  concurrency := s.concurrency

end RetrySettings

/-- An entry whose configuration cannot be built. -/
structure SettingsError where
  name : String
  cause : ConfigurationError
  deriving Repr, DecidableEq

/-- The text of a settings error. -/
def SettingsError.message (e : SettingsError) : String :=
  s!"Invalid retry topic '{e.name}': " ++ e.cause.message

/-- A whole configuration. -/
structure Settings where
  messaging : MessagingSettings := {}
  dispatcher : DispatcherSettings := {}
  fatal : FatalSettings := {}
  retries : List RetrySettings := []
  endpoints : List Endpoint := []

namespace Settings

/-- The configuration of one entry. -/
def configuration (s : Settings) (draw : UInt32 → Nat) (r : RetrySettings) :
    Except SettingsError Configuration :=
  ((r.plan s.fatal.kinds).build draw).mapError (⟨r.displayName, ·⟩)

/-- The registry with the configurations of all entries. -/
def registry (s : Settings) (draw : UInt32 → Nat) : Except SettingsError Registry := do
  return { configurations := ← s.retries.mapM (s.configuration draw) }

end Settings

end Redelivery
