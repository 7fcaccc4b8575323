import Redelivery.Number.Time

/-!
# Clock

A clock that runs beside a program: the reading of the wall clock when the program started, and the
time since then, by which deadlines are kept.
-/

namespace Redelivery

/-- A clock. -/
structure Clock where
  start : Instant
  /-- The milliseconds since the start. -/
  elapsed : Nat := 0
  deriving Repr, DecidableEq

namespace Clock

/-- The reading of the wall clock. -/
def now (c : Clock) : Instant := .nearest (c.start.toInt + c.elapsed)

/-- The clock some milliseconds later. -/
def advance (c : Clock) (ms : Nat) : Clock := { c with elapsed := c.elapsed + ms }

/-- The clock when a deadline comes, which may have passed. -/
def advanceTo (c : Clock) (deadline : Nat) : Clock :=
  { c with elapsed := max c.elapsed deadline }

end Clock

end Redelivery
