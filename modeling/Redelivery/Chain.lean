import Redelivery.Chain.Stage

/-!
# Chain

The stages of one retry configuration, in order.  The first is the main stage and there is no
other; suffixes do not repeat; there is at most one stage for dead letters in general, and stages
for dead letters of certain kinds only beside it.  `Chain.ofStages` checks this; a chain keeps its
first stage apart, so that it always has one.
-/

namespace Redelivery

/-- The stages of a chain. -/
structure Chain where
  main : Stage
  later : List Stage
  deriving Repr, DecidableEq

namespace Chain

/-- All stages in order. -/
def stages (c : Chain) : List Stage := c.main :: c.later

/-- The first name of a list that occurred before, given those that came before the list. -/
def firstRepeated (seen : List String) : List String → Option String
  | [] => none
  | a :: as => if seen.contains a then some a else firstRepeated (a :: seen) as

/-- How many stages have a role. -/
def countRole (stages : List Stage) (role : Role) : Nat := stages.countP (·.role = role)

/-- The chain of the given stages, if they make one. -/
def ofStages (stages : List Stage) : Except ConfigurationError Chain :=
  match stages with
  | [] => .error (.invalid .mainNotFirst)
  | main :: later =>
      if !main.isMain then .error (.invalid .mainNotFirst)
      else
        match firstRepeated [] (stages.map Stage.suffix) with
        | some suffix => .error (.duplicateSuffix suffix)
        | none =>
            let defaults := countRole stages .deadLetter
            if countRole stages .main ≠ 1 then .error (.invalid .severalMains)
            else if 1 < defaults then .error (.invalid .severalDefaultDeadLetters)
            else if defaults = 0 ∧ 0 < countRole stages .reroutedDeadLetter then
              .error (.invalid .reroutingWithoutDefault)
            else .ok ⟨main, later⟩

/-- The position of the stage with a suffix. -/
def indexOf? (c : Chain) (suffix : String) : Option Nat :=
  c.stages.findIdx? (·.suffix = suffix)

/-- The stage with a suffix. -/
def bySuffix? (c : Chain) (suffix : String) : Option Stage :=
  c.stages.find? (·.suffix = suffix)

/-- The stage for dead letters in general. -/
def deadLetter? (c : Chain) : Option Stage := c.stages.find? (·.role = .deadLetter)

/-- The stage for the dead letters of the rule with a suffix. -/
def reroutedDeadLetter? (c : Chain) (routingSuffix : String) : Option Stage :=
  c.stages.find? fun s => s.role = .reroutedDeadLetter ∧ s.routingSuffix = some routingSuffix

/-- The first retry stage after a position. -/
def nextRetryAfter? (c : Chain) (index : Nat) : Option Stage :=
  (c.stages.drop (index + 1)).find? (·.role.isRetry)

/-- How many stages are retries. -/
def retryCount (c : Chain) : Nat := c.stages.countP (·.role.isRetry)

/-- The stages that workers take records from, with their positions. -/
def consumed (c : Chain) : List (Nat × Stage) :=
  (c.stages.zipIdx.map fun (s, i) => (i, s)).filter (·.2.role.isConsumed)

/-- The topics of the chain of a main topic, in order. -/
def topics (c : Chain) (mainTopic : String) : List String :=
  c.stages.map (·.topicFor mainTopic)

end Chain

end Redelivery
