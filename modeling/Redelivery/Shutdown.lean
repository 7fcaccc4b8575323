/-!
# Shutdown

The signal that tells workers to stop.  It holds whether a stop is requested, and it can be set
again; whoever watches it remembers how often it had been set when they last looked.  A signal that
nobody can set any more is abandoned.
-/

namespace Redelivery

/-- The signal as those who watch it see it. -/
structure Shutdown where
  requested : Bool := false
  /-- How often the signal was set. -/
  version : Nat := 0
  /-- Whether nobody can set it any more. -/
  abandoned : Bool := false
  deriving Repr, DecidableEq

namespace Shutdown

/-- The signal after it was set. -/
def send (s : Shutdown) (requested : Bool) : Shutdown :=
  { s with requested, version := s.version + 1 }

/-- The signal after its sender is gone. -/
def abandon (s : Shutdown) : Shutdown := { s with abandoned := true }

/-- Whether the signal was set since it had been set `seen` times. -/
def isNewer (s : Shutdown) (seen : Nat) : Bool := seen < s.version

/-- Whether the signal wakes someone who saw it last when it had been set `seen` times. -/
def wakes (s : Shutdown) (seen : Nat) : Bool := s.isNewer seen || s.abandoned

/-- Whether someone who waits and saw the signal last when it had been set `seen` times gives up:
a stop is requested by then, or will never be. -/
def stops (s : Shutdown) (seen : Nat) : Bool :=
  if s.isNewer seen then s.requested else s.abandoned

theorem wakes_of_stops {s : Shutdown} {seen : Nat} (h : s.stops seen) : s.wakes seen := by
  unfold stops at h
  split at h <;> simp_all [wakes]

end Shutdown

end Redelivery
