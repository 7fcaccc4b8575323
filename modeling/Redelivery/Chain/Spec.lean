import Redelivery.Backoff
import Redelivery.Chain

/-!
# Chain — Spec

How a chain follows from a backoff policy, a number of attempts and a choice of names.  The delays
are taken from the policy once, when the chain is built, one retry stage for each; a policy that
stops early makes a shorter chain with fewer attempts.
-/

namespace Redelivery

/-- How retry stages are told apart by their suffixes. -/
inductive Suffixing where
  /-- By their position among the retry stages. -/
  | index
  /-- By their delay, and delays that repeat by how often they occurred before. -/
  | delayValue
  deriving Repr, DecidableEq

/-- What a chain is built from. -/
structure ChainSpec where
  backoff : Backoff.Policy := Backoff.standard
  /-- How often a record is attempted at most, the first time included. -/
  maxAttempts : UInt32 := 3
  /-- How long after the first attempt a record may still be attempted. -/
  timeout : Option Millis := none
  retrySuffix : String := "-retry"
  deadLetterSuffix : String := "-dlt"
  suffixing : Suffixing := .index
  /-- Whether delays that are all the same share one topic. -/
  reuseTopic : Bool := false
  /-- Whether the chain has dead-letter stages. -/
  keepsDeadLetters : Bool := true
  creation : TopicCreation := {}
  routing : Routing := .empty

/-- The delays that a walk along a policy yields before it stops, at most `n`. -/
def Backoff.Cursor.delays (draw : UInt32 → Nat) : Nat → Backoff.Cursor → List Millis
  | 0, _ => []
  | n + 1, c =>
      match c.next draw with
      | (some d, c) => d :: delays draw n c
      | (none, _) => []

namespace ChainSpec

/-- The delays of the retry stages. -/
def delays (s : ChainSpec) (draw : UInt32 → Nat) : List Millis :=
  (s.backoff.start (s.maxAttempts - 1)).delays draw (s.maxAttempts.toNat - 1)

/-- The suffixes of retry stages that are told apart by their delays, of which those in `seen`
came before. -/
def valueSuffixes (retrySuffix : String) (seen : List Millis) : List Millis → List String
  | [] => []
  | d :: ds =>
      let stem := retrySuffix ++ "-" ++ toString d.toNat
      let suffix := match seen.count d with
        | 0 => stem
        | n => stem ++ "-" ++ toString n
      suffix :: valueSuffixes retrySuffix (d :: seen) ds

/-- The suffixes of the retry stages with the given delays. -/
def retrySuffixes (s : ChainSpec) (delays : List Millis) : List String :=
  match s.suffixing with
  | .index => (List.range delays.length).map fun i => s.retrySuffix ++ "-" ++ toString i
  | .delayValue => valueSuffixes s.retrySuffix [] delays

/-- Whether all retries share one topic. -/
def reuses (s : ChainSpec) (delays : List Millis) : Bool :=
  s.reuseTopic && s.backoff.isConstant && 1 < delays.length

/-- How many attempts the stages allow. -/
def budget (s : ChainSpec) (delays : List Millis) : UInt32 :=
  if s.reuses delays then s.maxAttempts else UInt32.ofNatClamp (delays.length + 1)

/-- A stage of the chain. -/
def stage (s : ChainSpec) (delays : List Millis) (suffix : String) (delay : Millis) (role : Role)
    (routingSuffix : Option String) : Stage :=
  { suffix, delay, role, budget := s.budget delays, creation := s.creation, routingSuffix
    routing := s.routing }

/-- The role of a retry stage that comes after `waited` has been waited for, its own delay
included. -/
def retryRole (s : ChainSpec) (waited : Millis) : Role :=
  match s.timeout with
  | some t => if t < waited then .retryPastTimeout else .retry
  | none => .retry

/-- One retry stage for each suffix and delay, after `waited` has been waited for. -/
def retryStages (s : ChainSpec) (delays : List Millis) (waited : Millis) :
    List (String × Millis) → List Stage
  | [] => []
  | (suffix, d) :: rest =>
      let waited := waited.add d
      s.stage delays suffix d (s.retryRole waited) none :: s.retryStages delays waited rest

/-- The dead-letter stages: one for each rule, and the one for all other dead letters. -/
def deadLetterStages (s : ChainSpec) (delays : List Millis) : List Stage :=
  if s.keepsDeadLetters then
    s.routing.rules.map (fun r =>
      s.stage delays (r.suffix ++ s.deadLetterSuffix) 0 .reroutedDeadLetter (some r.suffix)) ++
    [s.stage delays s.deadLetterSuffix 0 .deadLetter none]
  else []

/-- All stages for the given delays. -/
def stages (s : ChainSpec) (delays : List Millis) : List Stage :=
  let retries :=
    if s.reuses delays then
      [s.stage delays s.retrySuffix (delays.headD 0) .reusableRetry none]
    else s.retryStages delays 0 ((s.retrySuffixes delays).zip delays)
  s.stage delays "" 0 .main none :: retries ++ s.deadLetterStages delays

/-- The chain, whose delays are drawn with `draw`. -/
def build (s : ChainSpec) (draw : UInt32 → Nat) : Except ConfigurationError Chain :=
  if s.maxAttempts = 0 then .error (.invalid .noAttempts)
  else if s.creation.partitions < 1 then
    .error (.invalid (.tooFewPartitions s.creation.partitions))
  else if s.deadLetterSuffix = "" then .error (.invalid .emptyDeadLetterSuffix)
  else Chain.ofStages (s.stages (s.delays draw))

end ChainSpec

end Redelivery
