import Redelivery.Pattern.Regex.Classes
import Redelivery.Pattern.Regex.Folding
import Redelivery.Text.Blank

/-!
# Pattern — Regex — Expr

Regular expressions as data, and the texts in which they find a match.  A set of characters
(`CharSet`) is built from ranges and named classes; an expression (`Expr`) consumes characters,
looks at a position, or combines others.

Only the existence of a match is of interest here, so it does not matter how eager a repetition
is.  `Expr.ends` takes the set of positions at which an expression may begin to the set of those
at which it may end; a repetition adds ends until nothing changes, which is after at most as many
rounds as there are positions.
-/

namespace Redelivery.Regex

/-- The code points from `low` to `high`, each `step` above the one before. -/
structure CodeRun where
  low : Nat
  high : Nat
  step : Nat
  deriving Repr, DecidableEq

/-- Whether a code point belongs to a run. -/
def CodeRun.covers (r : CodeRun) (n : Nat) : Bool :=
  r.low ≤ n && n ≤ r.high && (n - r.low) % r.step == 0

/-- The run that a text such as `41`, `41-5A` or `100-12E/2` writes. -/
def CodeRun.ofText (cs : List Char) : CodeRun :=
  let value (cs : List Char) : Nat :=
    cs.foldl (fun acc c => acc * 16 + (if c.isDigit then c.toNat - 48 else c.toNat - 55)) 0
  match (cs.splitOn '/').map (·.splitOn '-') with
  | [low, high] :: [] => ⟨value low, value high, 1⟩
  | [low, high] :: [step] :: _ => ⟨value low, value high, value step⟩
  | _ => ⟨value cs, value cs, 1⟩

/-- A set of characters. -/
inductive CharSet where
  | empty
  | range (low high : Nat)
  | runs (rs : List CodeRun)
  | digit
  | space
  | word
  | union (a b : CharSet)
  | inter (a b : CharSet)
  | diff (a b : CharSet)
  | symmDiff (a b : CharSet)
  | compl (a : CharSet)
  /-- All characters that differ from one of `a` in case only. -/
  | folded (a : CharSet)
  deriving Repr, DecidableEq, Inhabited

/-- Whether a code point belongs to a set. -/
def CharSet.contains : CharSet → Nat → Bool
  | .empty, _ => false
  | .range low high, n => low ≤ n && n ≤ high
  | .runs rs, n => rs.any (·.covers n)
  | .digit, n => isDigit n
  | .space, n => Text.isBlank (Char.ofNat n)
  | .word, n => isWord n
  | .union a b, n => a.contains n || b.contains n
  | .inter a b, n => a.contains n && b.contains n
  | .diff a b, n => a.contains n && !b.contains n
  | .symmDiff a b, n => a.contains n != b.contains n
  | .compl a, n => !a.contains n
  | .folded a, n => (variants n).any a.contains

/-- What an expression asks of a position. -/
inductive Look where
  | textStart
  | textEnd
  | lineStart
  | lineEnd
  /-- As `lineStart`, where a carriage return and a line feed end a line too. -/
  | lineStartReturn
  | lineEndReturn
  | wordBoundary
  | noWordBoundary
  | wordStart
  | wordEnd
  /-- No character of a word before. -/
  | wordStartHalf
  /-- No character of a word after. -/
  | wordEndHalf
  deriving Repr, DecidableEq

/-- A regular expression. -/
inductive Expr where
  | nothing
  /-- One character of a set. -/
  | one (s : CharSet)
  /-- A position; `ascii` says that only ASCII characters belong to words. -/
  | look (l : Look) (ascii : Bool)
  | seq (a b : Expr)
  | alt (a b : Expr)
  /-- At least `least` and, if given, at most `most` times. -/
  | rep (a : Expr) (least : Nat) (most : Option Nat)
  deriving Repr, DecidableEq, Inhabited

/-- A set of positions of a text: whether each of them belongs to it. -/
abbrev Positions := Array Bool

/-- The positions of either set. -/
def Positions.or (s t : Positions) : Positions := s.mapIdx fun i b => b || t.getD i false

/-- The characters of a word, of ASCII alone if `ascii`. -/
def isWordChar (ascii : Bool) (c : Nat) : Bool := (!ascii || c < 128) && isWord c

/-- Whether a position is as asked for, given the characters around it. -/
def Look.holds (l : Look) (ascii : Bool) (before after : Option Nat) : Bool :=
  let wordBefore := before.any (isWordChar ascii)
  let wordAfter := after.any (isWordChar ascii)
  match l with
  | .textStart => before.isNone
  | .textEnd => after.isNone
  | .lineStart => before.isNone || before == some 10
  | .lineEnd => after.isNone || after == some 10
  | .lineStartReturn =>
      before.isNone || before == some 10 || (before == some 13 && after != some 10)
  | .lineEndReturn =>
      after.isNone || after == some 13 || (after == some 10 && before != some 13)
  | .wordBoundary => wordBefore != wordAfter
  | .noWordBoundary => wordBefore == wordAfter
  | .wordStart => !wordBefore && wordAfter
  | .wordEnd => wordBefore && !wordAfter
  | .wordStartHalf => !wordBefore
  | .wordEndHalf => !wordAfter

/-- `f` applied `n` times, or fewer if it changes nothing any more. -/
def iterate (f : Positions → Positions) : Nat → Positions → Positions
  | 0, s => s
  | n + 1, s =>
      let t := f s
      if t = s then s else iterate f n t

/-- The positions at which `e` may end if it begins at one of `starts`. -/
def Expr.ends (text : Array Nat) : Expr → Positions → Positions
  | .nothing, starts => starts
  | .one s, starts =>
      starts.mapIdx fun i _ =>
        i ≠ 0 && starts.getD (i - 1) false && (text[i - 1]?).any s.contains
  | .look l ascii, starts =>
      starts.mapIdx fun i b =>
        b && l.holds ascii (if i = 0 then none else text[i - 1]?) text[i]?
  | .seq a b, starts => b.ends text (a.ends text starts)
  | .alt a b, starts => (a.ends text starts).or (b.ends text starts)
  | .rep a least most, starts =>
      let optional := fun s => Positions.or s (a.ends text s)
      let rounds := match most with
        | none => text.size + 1
        | some m => min (m - least) (text.size + 1)
      iterate optional rounds (iterate (a.ends text) least starts)

/-- Whether an expression matches some part of a text. -/
def Expr.isMatch (e : Expr) (text : String) : Bool :=
  let chars := (text.toList.map Char.toNat).toArray
  (e.ends chars (Array.replicate (chars.size + 1) true)).any id

end Redelivery.Regex
