import Redelivery.Datum
import Redelivery.Settings
import Redelivery.Yaml.Flaw

/-!
# Settings — Source

How settings are read from values that can be looked at in certain ways.  What a way of looking
accepts is up to the values (`Source`); which parts there are, which may be left out, and that no
part is given twice, is the same for all.  Parts that are not known are passed over.
-/

namespace Redelivery

/-- Why settings cannot be read. -/
inductive SettingsFlaw where
  | document (flaw : Yaml.Flaw)
  | missingFile (name : String)
  /-- A value of another kind than expected. -/
  | mismatch (expected : String)
  | repeated (key : String)
  | missing (key : String)
  | unknownName (name : String)
  deriving Repr, DecidableEq

/-- The text of a flaw. -/
def SettingsFlaw.message : SettingsFlaw → String
  | .document flaw => flaw.message
  | .missingFile name => s!"configuration file '{name}' not found"
  | .mismatch expected => "invalid type, expected " ++ expected
  | .repeated key => s!"duplicate field '{key}'"
  | .missing key => s!"missing field '{key}'"
  | .unknownName name => s!"unknown variant '{name}'"

/-- Values that can be looked at in certain ways. -/
class Source (σ : Type) where
  text? : σ → Option String
  bool? : σ → Option Bool
  /-- The natural number of that many bits. -/
  nat? : (bits : Nat) → σ → Option Nat
  /-- The signed integer of that many bits. -/
  int? : (bits : Nat) → σ → Option Int
  items? : σ → Option (List σ)
  entries? : σ → Option (List (String × σ))
  /-- Whether there is no value where there need not be one. -/
  isAbsent : σ → Bool
  /-- The name of one of several values without parts. -/
  choice? : σ → Option String
  tagged? : σ → Option Tagged

namespace Source

variable {σ α : Type} [Source σ]

/-- What a way of looking shows, which has to be something. -/
def need (expected : String) (look : σ → Option α) (x : σ) : Except SettingsFlaw α :=
  match look x with
  | some a => .ok a
  | none => .error (.mismatch expected)

/-- A text. -/
def text : σ → Except SettingsFlaw String := need "a string" text?

/-- A truth value. -/
def bool : σ → Except SettingsFlaw Bool := need "a boolean" bool?

/-- A natural number of 64 bits. -/
def nat64 : σ → Except SettingsFlaw Nat := need "an unsigned integer" (nat? 64)

/-- A length of time. -/
def millis (x : σ) : Except SettingsFlaw Millis := (nat64 x).map UInt64.ofNat

/-- A natural number of 32 bits. -/
def word (x : σ) : Except SettingsFlaw UInt32 :=
  (need "an unsigned integer" (nat? 32) x).map UInt32.ofNat

/-- A signed integer of that many bits. -/
def int (bits : Nat) : σ → Except SettingsFlaw Int := need "an integer" (int? bits)

/-- A list. -/
def list (item : σ → Except SettingsFlaw α) (x : σ) : Except SettingsFlaw (List α) := do
  (← need "a sequence" items? x).mapM item

/-- Texts. -/
def texts : σ → Except SettingsFlaw (List String) := list text

/-- A value that need not be there. -/
def optional (value : σ → Except SettingsFlaw α) (x : σ) : Except SettingsFlaw (Option α) :=
  if isAbsent x then .ok none else (value x).map some

/-- The value of a name from a table. -/
def named (names : List (String × α)) (x : σ) : Except SettingsFlaw α := do
  let name ← need "a name" choice? x
  match names.lookup name with
  | some a => return a
  | none => throw (.unknownName name)

/-- The entry for a key, of which there is at most one. -/
def unique {β : Type} (entries : List (String × β)) (key : String) :
    Except SettingsFlaw (Option β) :=
  match entries.filter (·.1 == key) with
  | [] => .ok none
  | [(_, v)] => .ok (some v)
  | _ => .error (.repeated key)

/-- The part under a key, or `fallback` without one. -/
def part (entries : List (String × σ)) (key : String) (fallback : α)
    (value : σ → Except SettingsFlaw α) : Except SettingsFlaw α := do
  match ← unique entries key with
  | some x => value x
  | none => return fallback

/-- The parts of a value. -/
def parts : σ → Except SettingsFlaw (List (String × σ)) := need "a map" entries?

end Source

/-! ### Backoff policies -/

namespace Tagged

/-- The name of a tagged value and its other parts, named as in `keys` if they come in order. -/
def split (keys : String → List String) (t : Tagged) :
    Except SettingsFlaw (String × List (String × Option Datum)) := do
  let nameOf (d : Option Datum) : Except SettingsFlaw String :=
    match d.bind Datum.text? with
    | some name => .ok name
    | none => .error (.mismatch "a name")
  match t with
  | .named parts =>
      match ← Source.unique parts "kind" with
      | some d => return (← nameOf d, parts)
      | none => throw (.missing "kind")
  | .ordered [] => throw (.missing "kind")
  | .ordered (d :: ds) =>
      let name ← nameOf d
      if (keys name).length < ds.length then throw (.mismatch "fewer elements")
      return (name, (keys name).zip ds)

/-- A part of a tagged value, or `fallback` without one; without a fallback it has to be there. -/
def part {α : Type} (parts : List (String × Option Datum)) (key : String) (fallback : Option α)
    (value : Datum → Option α) : Except SettingsFlaw α := do
  match ← Source.unique parts key, fallback with
  | some d, _ =>
      match d.bind value with
      | some a => return a
      | none => throw (.mismatch key)
  | none, some a => return a
  | none, none => throw (.missing key)

end Tagged

namespace Settings

/-- The parts of each kind of backoff policy, in order. -/
def backoffKeys : String → List String
  | "fixed" => ["interval_ms"]
  | "exponential" => ["initial_ms", "multiplier", "max_ms"]
  | "exponential_random" => ["initial_ms", "multiplier", "max_ms", "jitter"]
  | "uniform_random" => ["min_ms", "max_ms"]
  | _ => []

/-- The jitter unless another is given. -/
def standardJitter : Float := 1.0

/-- A backoff policy. -/
def backoffOf (t : Tagged) : Except SettingsFlaw Backoff.Policy := do
  let (kind, parts) ← t.split backoffKeys
  let ms (key : String) (fallback : Option Millis) :=
    Tagged.part parts key fallback fun d => d.nat64?.map UInt64.ofNat
  let factor (key : String) (fallback : Float) := Tagged.part parts key (some fallback) Datum.float?
  match kind with
  | "none" => return .none
  | "fixed" => return .fixed (← ms "interval_ms" none)
  | "exponential" =>
      return .exponential (← ms "initial_ms" none)
        (← factor "multiplier" Backoff.standardMultiplier)
        (← ms "max_ms" (some Backoff.standardMost))
  | "exponential_random" =>
      return .exponentialRandom (← ms "initial_ms" none)
        (← factor "multiplier" Backoff.standardMultiplier)
        (← ms "max_ms" (some Backoff.standardMost)) (← factor "jitter" standardJitter)
  | "uniform_random" => return .uniformRandom (← ms "min_ms" none) (← ms "max_ms" none)
  | name => throw (.unknownName name)

/-! ### The parts of settings -/

open Source

variable {σ : Type} [Source σ]

/-- How to reach a broker. -/
def kafkaOf (x : σ) : Except SettingsFlaw KafkaSettings := do
  let ps ← parts x
  let text? (key : String) := part ps key none (optional text)
  return {
    servers := ← part ps "bootstrap_servers" ({} : KafkaSettings).servers text
    saslUsername := ← text? "sasl_username"
    saslPassword := ← text? "sasl_password"
    saslMechanism := ← text? "sasl_mechanism"
    securityProtocol := ← text? "security_protocol"
    certificate := ← text? "ssl_ca_location"
    sessionTimeout := ← part ps "session_timeout_ms" ({} : KafkaSettings).sessionTimeout word }

/-- Which broker is used. -/
def messagingOf (x : σ) : Except SettingsFlaw MessagingSettings := do
  let ps ← parts x
  let kinds := [MessagingKind.memory, .kafka].map fun k => (k.name, k)
  return {
    kind := ← part ps "type" .memory (named kinds)
    kafka := ← part ps "kafka" {} kafkaOf }

/-- How a publication is tried again. -/
def publishRetryOf (x : σ) : Except SettingsFlaw PublishRetry := do
  let ps ← parts x
  let d : PublishRetry := {}
  return {
    leastPause := ← part ps "min_delay_ms" d.leastPause millis
    longestPause := ← part ps "max_delay_ms" d.longestPause millis
    tries := ← part ps "max_times" d.tries nat64 }

/-- How workers take records. -/
def dispatcherOf (x : σ) : Except SettingsFlaw DispatcherSettings := do
  let ps ← parts x
  let d : DispatcherSettings := {}
  return {
    pollTimeout := ← part ps "poll_timeout_ms" d.pollTimeout millis
    defaultConcurrency := ← part ps "default_concurrency" d.defaultConcurrency nat64
    publishRetry := ← part ps "publish_retry" d.publishRetry publishRetryOf
    redeliveryInitial := ← part ps "redelivery_initial_ms" d.redeliveryInitial millis
    redeliveryMost := ← part ps "redelivery_max_ms" d.redeliveryMost millis
    redeliveryRetries := ← part ps "redelivery_max_retries" d.redeliveryRetries word }

/-- Changes to the fatal kinds. -/
def fatalOf (x : σ) : Except SettingsFlaw FatalSettings := do
  let ps ← parts x
  return { added := ← part ps "add" [] texts, removed := ← part ps "remove" [] texts }

/-- How topics are created. -/
def creationOf (x : σ) : Except SettingsFlaw TopicCreation := do
  let ps ← parts x
  let d : TopicCreation := {}
  return {
    enabled := ← part ps "enabled" d.enabled bool
    partitions := ← part ps "partitions" d.partitions (int 32)
    replication := ← part ps "replication_factor" d.replication (int 16) }

/-- A list with an entry for a key, in the order of keys and in place of an earlier one. -/
def putSorted {α : Type} (key : String) (a : α) : List (String × α) → List (String × α)
  | [] => [(key, a)]
  | (k, b) :: rest =>
      if key < k then (key, a) :: (k, b) :: rest
      else if key = k then (key, a) :: rest
      else (k, b) :: putSorted key a rest

/-- The kinds for each dead-letter suffix. -/
def routingOf (x : σ) : Except SettingsFlaw (List (String × List String)) := do
  (← parts x).foldlM (fun acc (suffix, kinds) => do
    return putSorted suffix (← texts kinds) acc) []

/-- How failed records of some topics are treated. -/
def retryOf (x : σ) : Except SettingsFlaw RetrySettings := do
  let ps ← parts x
  let d : RetrySettings := {}
  let kinds := [PatternKind.exact, .glob, .regex].map fun k => (k.name, k)
  let strategies := [DeadLetterStrategy.failOnError, .alwaysRetryOnError, .noDeadLetters].map
    fun s => (s.name, s)
  let flag (key : String) (fallback : Bool) := part ps key fallback bool
  let names (key : String) := part ps key [] texts
  return {
    name := ← part ps "name" none (optional text)
    backoff := ← part ps "backoff" d.backoff fun x => do
      backoffOf (← need "a backoff policy" tagged? x)
    maxAttempts := ← part ps "max_attempts" d.maxAttempts word
    timeout := (← part ps "timeout_ms" none (optional (int 64))).map Int64.ofInt
    retryOn := ← names "retry_on"
    notRetryOn := ← names "not_retry_on"
    traverse := ← flag "traverse_causes" d.traverse
    included := ← names "include_topics"
    excluded := ← names "exclude_topics"
    patternKind := ← part ps "pattern_syntax" d.patternKind (named kinds)
    caseSensitive := ← flag "case_sensitive" d.caseSensitive
    creation := ← part ps "auto_create" d.creation creationOf
    retrySuffix := ← part ps "retry_topic_suffix" d.retrySuffix text
    deadLetterSuffix := ← part ps "dlt_topic_suffix" d.deadLetterSuffix text
    suffixWithDelay := ← flag "suffix_with_delay_value" d.suffixWithDelay
    reuseTopic := ← flag "single_topic_for_same_intervals" d.reuseTopic
    routing := ← part ps "dlt_routing" d.routing routingOf
    strategy := ← part ps "dlt_strategy" d.strategy (named strategies)
    concurrency := ← part ps "concurrency" none (optional nat64) }

/-- Consumers of some main topics. -/
def endpointOf (x : σ) : Except SettingsFlaw Endpoint := do
  let ps ← parts x
  return {
    id := ← part ps "id" "" text
    group := ← part ps "group_id" "" text
    topics := ← part ps "topics" [] texts
    concurrency := ← part ps "concurrency" none (optional nat64) }

/-- A whole configuration. -/
def ofSource (x : σ) : Except SettingsFlaw Settings := do
  let ps ← parts x
  return {
    messaging := ← part ps "messaging" {} messagingOf
    dispatcher := ← part ps "dispatcher" {} dispatcherOf
    fatal := ← part ps "fatal_kinds" {} fatalOf
    retries := ← part ps "retry_topics" [] (list retryOf)
    endpoints := ← part ps "endpoints" [] (list endpointOf) }

end Settings

end Redelivery
