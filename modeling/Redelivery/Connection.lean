/-!
# Connection

How a broker is connected to when a program starts: an attempt that fails is followed by another
one, up to a fixed number of them.
-/

namespace Redelivery.Connection

/-- How many attempts may follow the first. -/
def furtherAttempts : Nat := 30

/-- What attempts `n`, `n + 1`, … come to, of which at most `more` follow attempt `n`: the first
success or else the last failure, with the number of the attempt that it belongs to. -/
def persist {ε α : Type} (attempt : Nat → Except ε α) : (more n : Nat) → Except ε α × Nat
  | 0, n => (attempt n, n)
  | more + 1, n =>
      match attempt n with
      | .ok a => (.ok a, n)
      | .error _ => persist attempt more (n + 1)

/-- What the attempts to connect come to, which are counted from one. -/
def connect {ε α : Type} (attempt : Nat → Except ε α) : Except ε α × Nat :=
  persist attempt furtherAttempts 1

end Redelivery.Connection
