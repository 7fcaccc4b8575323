import Redelivery.Number.Shortest
import Redelivery.Number.Time

/-!
# Backoff

How long to wait before the next attempt.  A policy gives a delay for each attempt that failed,
counted from one, or gives none and thereby stops (`Policy.delay?`).  A policy that draws its
delays says between which bounds (`Policy.bounds?`), and the draw is an argument.

A `Cursor` walks a policy for a limited number of delays; a `Repeating` one never stops and
repeats the last delay instead.  Both are values of their own: nothing is shared.
-/

namespace Redelivery.Backoff

/-- How delays follow from the number of the attempt. -/
inductive Policy where
  /-- No delay. -/
  | none
  /-- The same delay each time. -/
  | fixed (interval : Millis)
  /-- `initial` times the power of `multiplier`, at most `most`. -/
  | exponential (initial : Millis) (multiplier : Float) (most : Millis)
  /-- An exponential delay `d` drawn between `d` and `d · (1 + jitter)`, at most `most`. -/
  | exponentialRandom (initial : Millis) (multiplier : Float) (most : Millis) (jitter : Float)
  /-- A delay drawn between two bounds. -/
  | uniformRandom (least most : Millis)
  /-- Any rule; an attempt without a delay stops. -/
  | custom (delay : UInt32 → Option Millis)

/-- The longest exponential delay unless another is given. -/
def standardMost : Millis := 30000

/-- The factor between exponential delays unless another is given. -/
def standardMultiplier : Float := 2.0

/-- One second between attempts. -/
def standard : Policy := .fixed 1000

/-- The number `x` to the power `n`, by squaring from the low bit of `n` on: the product of the
squares that belong to the bits that are set, in this order, each rounded. -/
def power (x : Float) (n : Nat) : Float := go x n 1.0
where
  /-- The powers that are still to be multiplied into `acc`. -/
  go (x : Float) (n : Nat) (acc : Float) : Float :=
    let acc := if n % 2 = 1 then acc * x else acc
    if h : n / 2 = 0 then acc else go (x * x) (n / 2) acc
  termination_by n
  decreasing_by omega

/-- The smaller of two numbers, of which one that is not a number is passed over. -/
def smaller (x y : Float) : Float :=
  if x.isNaN then y else if y.isNaN then x else if x < y then x else y

/-- The larger of two numbers, of which one that is not a number is passed over. -/
def larger (x y : Float) : Float :=
  if x.isNaN then y else if y.isNaN then x else if y < x then x else y

/-- The exponential delay after attempt `n`, which is the first for zero too; one that has grown
out of range is the longest. -/
def exponentialDelay (initial : Millis) (multiplier : Float) (most : Millis) (n : UInt32) :
    Millis :=
  let exponent := min (max n.toNat 1 - 1) (Nat.pow 2 31 - 1)
  let raw := initial.toFloat * power multiplier exponent
  if raw.isFinite then (smaller raw most.toFloat).toUInt64 else most

/-- The longest delay that jitter makes of `base`. -/
def jitteredDelay (base : Millis) (most : Millis) (jitter : Float) : Millis :=
  max base (smaller (base.toFloat * (1.0 + larger jitter 0.0)) most.toFloat).toUInt64

/-- The value that a draw picks between two bounds, both included. -/
def pick (draw : Nat) (least most : Millis) : Millis :=
  UInt64.ofNat (least.toNat + draw % (most.toNat - least.toNat + 1))

namespace Policy

/-- The shortest and the longest delay after attempt `n`, unless the policy stops. -/
def bounds? (p : Policy) (n : UInt32) : Option (Millis × Millis) :=
  match p with
  | .none => some (0, 0)
  | .fixed d => some (d, d)
  | .exponential i m most => let d := exponentialDelay i m most n; some (d, d)
  | .exponentialRandom i m most j =>
      let d := exponentialDelay i m most n
      some (d, jitteredDelay d most j)
  | .uniformRandom least most => some (least, max least most)
  | .custom f => (f (max n 1)).map fun d => (d, d)

/-- The delay after attempt `n` that `draw` picks, unless the policy stops. -/
def delay? (p : Policy) (n : UInt32) (draw : Nat) : Option Millis :=
  (p.bounds? n).map fun (least, most) => pick draw least most

/-- Whether all delays of the policy are the same. -/
def isConstant : Policy → Bool
  | .none | .fixed _ => true
  | _ => false

/-- A policy as its name and the values it was made from. -/
def describe : Policy → String
  | .none => "None"
  | .fixed d => s!"Fixed \x7b interval_ms: {d.toNat} \x7d"
  | .exponential i m most =>
      s!"Exponential \x7b initial_ms: {i.toNat}, multiplier: " ++ Shortest.text m ++
        s!", max_ms: {most.toNat} \x7d"
  | .exponentialRandom i m most j =>
      s!"ExponentialRandom \x7b initial_ms: {i.toNat}, multiplier: " ++ Shortest.text m ++
        s!", max_ms: {most.toNat}, jitter: " ++ Shortest.text j ++ " \x7d"
  | .uniformRandom least most =>
      s!"UniformRandom \x7b min_ms: {least.toNat}, max_ms: {most.toNat} \x7d"
  | .custom _ => "Custom(..)"

end Policy

/-- A walk along a policy: how many delays it may ask for, and for how many it asked. -/
structure Cursor where
  policy : Policy
  limit : UInt32
  asked : UInt32 := 0

/-- A walk from the start of a policy. -/
def Policy.start (p : Policy) (limit : UInt32) : Cursor := ⟨p, limit, 0⟩

/-- The next delay, unless the limit is reached or the policy stops. -/
def Cursor.next (c : Cursor) (draw : UInt32 → Nat) : Option Millis × Cursor :=
  if c.limit ≤ c.asked then (none, c)
  else
    let n := c.asked + 1
    (c.policy.delay? n (draw n), { c with asked := n })

/-- A walk that repeats its last delay when it cannot go on. -/
structure Repeating where
  policy : Policy
  limit : UInt32
  cursor : Option Cursor := none
  last : Millis := 0

namespace Repeating

/-- A walk that has not begun. -/
def new (policy : Policy) (limit : UInt32) : Repeating := { policy, limit }

/-- The next delay, which is the last one again at the end. -/
def next (r : Repeating) (draw : UInt32 → Nat) : Millis × Repeating :=
  let (d, c) := (r.cursor.getD (r.policy.start r.limit)).next draw
  let last := d.getD r.last
  (last, { r with cursor := some c, last })

/-- The walk from its start. -/
def reset (r : Repeating) : Repeating := { r with cursor := none, last := 0 }

end Repeating

end Redelivery.Backoff
