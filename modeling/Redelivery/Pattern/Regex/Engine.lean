import Redelivery.Pattern
import Redelivery.Pattern.Regex.Parser

/-!
# Pattern — Regex — Engine

The engine that patterns are run with.  It reads the text of an expression, refuses what is nested
too deeply or would take too much room, and searches by sets of positions (`Expr.ends`).

Of the properties of characters it knows the general categories, the scripts and a few more.  How
much room an expression takes is an estimate of its own (`Expr.cost`): another engine may draw the
line elsewhere.
-/

namespace Redelivery.Regex

/-- How deeply parts may be nested. -/
def depthLimit : Nat := 250

/-- How many bytes an expression may take. -/
def costLimit : Nat := 10 * 1024 * 1024

/-- About how many bytes the states take that read one character of a set. -/
def CharSet.cost : CharSet → Nat
  | .empty => 32
  | .range low high =>
      if low = high then
        if low < 0x80 then 32 else if low < 0x800 then 64 else if low < 0x10000 then 96 else 128
      else 40
  | .runs rs => 65 * rs.length
  | .digit => 4000
  | .space => 600
  | .word => 50000
  | .union a b => a.cost + b.cost
  | .inter a b | .diff a b | .symmDiff a b => max a.cost b.cost
  | .compl a => a.cost + 400
  | .folded a => 2 * a.cost

/-- About how many bytes the states of an expression take: a repetition with bounds stands for as
many copies. -/
def Expr.cost : Expr → Nat
  | .nothing | .look _ _ => 32
  | .one s => s.cost
  | .seq a b => a.cost + b.cost
  | .alt a b => a.cost + b.cost + 40
  | .rep a least none => max least 1 * a.cost + 40
  | .rep a least (some most) => most * a.cost + (most - least) * 40

/-- An expression within the limits. -/
def Part.limited (p : Part) : Except Flaw Expr :=
  if depthLimit < p.depth then .error .tooDeep
  else if costLimit < p.expr.cost then .error .tooLarge
  else .ok p.expr

/-- The engine. -/
def engine : Engine where
  Program := Expr
  build ignoreCase text := (parse { ignoreCase } text >>= Part.limited).mapError Flaw.message
  isMatch := Expr.isMatch

end Redelivery.Regex
