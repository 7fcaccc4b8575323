import Redelivery.Pattern.Regex.Class

/-!
# Pattern — Regex — Parser

Regular expressions in text.  Alternatives are separated by `|`, groups are in parentheses, and
a repetition applies to the part just before it.  Flags set within a group hold to its end, in
later alternatives too.

A text is read token by token (`token`), which depends on the flags in force and on nothing else
that was read before.  The groups that are still open form a stack (`Outer`).
-/

namespace Redelivery.Regex

/-- A part of an expression, with how deeply parts are nested in it. -/
structure Part where
  expr : Expr
  depth : Nat := 0

/-- The alternatives of a group that are complete, and the parts of the one being read, each
list with the last one first.  Flags that were set stand among the parts as `none`. -/
structure Branches where
  done : List Part := []
  parts : List (Option Part) := []

/-- The group around the one being read, and the flags in force there. -/
structure Outer where
  branches : Branches
  flags : Flags

/-- One more part of the current alternative. -/
def Branches.add (b : Branches) (p : Part) : Branches := { b with parts := some p :: b.parts }

/-- The parts in a row. -/
def rowOf (parts : List (Option Part)) : Part :=
  let deepest := parts.foldl (fun d p => max d ((p.map Part.depth).getD 0)) 0
  let exprs := parts.filterMap (·.map Part.expr)
  { expr := match exprs with
      | [] => .nothing
      | last :: before => before.foldl (fun acc e => .seq e acc) last
    depth := deepest + if 1 < parts.length then 1 else 0 }

/-- The group read so far: its alternatives, of which the last is complete now. -/
def Branches.finish (b : Branches) : Part :=
  let row := rowOf b.parts
  match b.done with
  | [] => row
  | done =>
      { expr := done.foldl (fun acc p => .alt p.expr acc) row.expr
        depth := done.foldl (fun d p => max d p.depth) row.depth + 1 }

/-- The next alternative begins. -/
def Branches.split (b : Branches) : Branches := ⟨rowOf b.parts :: b.done, []⟩

/-- The last part repeated. -/
def Branches.repeatLast (b : Branches) (least : Nat) (most : Option Nat) :
    Except Flaw Branches :=
  match b.parts with
  | some p :: parts =>
      .ok { b with parts := some ⟨.rep p.expr least most, p.depth + 1⟩ :: parts }
  | _ => .error .nothingToRepeat

/-- A character as an expression. -/
def literal (f : Flags) (n : Nat) : Expr :=
  .one (if f.unicode || n < 128 then cased f (.range n n) else .range n n)

/-- What an escape means outside a class. -/
def escapedExpr (f : Flags) : Escaped → Except Flaw Expr
  | .char n raw => if raw && !f.unicode && 127 < n then .error .notText else .ok (literal f n)
  | .set s negated => do return .one (← asText f (if negated then .compl s else s))
  | .look l => .ok (.look l !f.unicode)

/-- Any character, as far as the flags go. -/
def anyChar (f : Flags) : Except Flaw Expr :=
  if !f.unicode then .error .notText
  else if f.dotAll then .ok (.one (.range 0 0x10FFFF))
  else if f.returns then .ok (.one (.compl (.union (.range 10 10) (.range 13 13))))
  else .ok (.one (.compl (.range 10 10)))

/-- The start of the text or of a line. -/
def caret (f : Flags) : Look :=
  if !f.multiLine then .textStart else if f.returns then .lineStartReturn else .lineStart

/-- The end of the text or of a line. -/
def dollar (f : Flags) : Look :=
  if !f.multiLine then .textEnd else if f.returns then .lineEndReturn else .lineEnd

/-- The text without a question mark in front, which only makes a repetition less eager. -/
def skipLazy : List Char → List Char
  | '?' :: rest => rest
  | cs => cs

/-- The same with blanks in front of the question mark. -/
def skipSpaceLazy (f : Flags) (cs : List Char) : List Char :=
  match skipSpace f cs with
  | '?' :: rest => rest
  | _ => cs

/-- What an opening parenthesis begins. -/
inductive Opening where
  /-- A group with flags of its own and maybe a name. -/
  | group (f : Flags) (name : Option String)
  /-- Flags for what follows. -/
  | setFlags (f : Flags)

/-- A group with a name; the text starts at the name. -/
def namedGroup (f : Flags) (cs : List Char) : Except Flaw (Opening × List Char) := do
  let (name, rest) ← groupName cs
  return (.group f (some name), rest)

/-- A group with flags, or the flags alone.  Without any these have nothing to set. -/
def flagged (f : Flags) (cs : List Char) : Except Flaw (Opening × List Char) := do
  let ((g, isSet, isGroup), rest) ← flags [] false false f cs
  if isGroup then return (.group g none, rest)
  else if isSet then return (.setFlags g, rest)
  else throw .nothingToRepeat

/-- What stands after an angle bracket: a name, unless the signs ask to look behind. -/
def angled (f : Flags) : List Char → Except Flaw (Opening × List Char)
  | '=' :: _ | '!' :: _ => .error .lookAround
  | cs => namedGroup f cs

/-- What stands after a question mark: a name, or flags, unless the signs ask to look ahead or
behind. -/
def marked (f : Flags) : List Char → Except Flaw (Opening × List Char)
  | '=' :: _ | '!' :: _ => .error .lookAround
  | '<' :: rest => angled f rest
  | 'P' :: '<' :: rest => namedGroup f rest
  | cs => flagged f cs

/-- What stands after an opening parenthesis. -/
def opening (f : Flags) (cs : List Char) : Except Flaw (Opening × List Char) :=
  match skipSpace f cs with
  | '?' :: rest => marked f rest
  | _ => .ok (.group f none, cs)

/-- What a text is made of. -/
inductive Token where
  | opening (x : Opening)
  | closing
  | bar
  | part (p : Part)
  | repetition (least : Nat) (most : Option Nat)

/-- The token that begins with a character, and the text after it. -/
def token (f : Flags) (c : Char) (rest : List Char) : Except Flaw (Token × List Char) :=
  match c with
  | '(' => do
      let (x, rest) ← opening f rest
      return (.opening x, rest)
  | ')' => .ok (.closing, rest)
  | '|' => .ok (.bar, rest)
  | '?' => .ok (.repetition 0 (some 1), skipLazy rest)
  | '*' => .ok (.repetition 0 none, skipLazy rest)
  | '+' => .ok (.repetition 1 none, skipLazy rest)
  | '\x7b' => do
      let ((least, most), rest) ← bounds f rest
      return (.repetition least most, skipSpaceLazy f rest)
  | '[' => do
      let (x, rest) ← bracketClass f rest
      return (.part ⟨.one x.set, x.depth⟩, rest)
  | '\\' => do
      let (x, rest) ← escaped f rest
      return (.part ⟨← escapedExpr f x, 0⟩, rest)
  | '.' => do return (.part ⟨← anyChar f, 0⟩, rest)
  | '^' => .ok (.part ⟨.look (caret f) false, 0⟩, rest)
  | '$' => .ok (.part ⟨.look (dollar f) false, 0⟩, rest)
  | c => .ok (.part ⟨literal f c.toNat, 0⟩, rest)

/-- What was read of an expression: the flags in force, the group being read, those around it, and
the names of groups so far. -/
structure Reading where
  flags : Flags
  branches : Branches := {}
  outer : List Outer := []
  names : List String := []

namespace Reading

/-- A group begins, or other flags are in force. -/
def begin (s : Reading) : Opening → Except Flaw Reading
  | .setFlags g =>
      .ok { s with flags := g, branches := { s.branches with parts := none :: s.branches.parts } }
  | .group g name =>
      if name.any s.names.contains then .error .groupName
      else
        .ok
          { flags := g
            outer := ⟨s.branches, s.flags⟩ :: s.outer
            names := name.toList ++ s.names }

/-- The group ends, and is a part of the one around it. -/
def close (s : Reading) : Except Flaw Reading :=
  match s.outer with
  | [] => .error .strayParenthesis
  | o :: outer =>
      let p := s.branches.finish
      .ok { s with flags := o.flags, branches := o.branches.add ⟨p.expr, p.depth + 1⟩, outer }

/-- What was read with one more token. -/
def apply (s : Reading) : Token → Except Flaw Reading
  | .opening x => s.begin x
  | .closing => s.close
  | .bar => .ok { s with branches := s.branches.split }
  | .part p => .ok { s with branches := s.branches.add p }
  | .repetition least most => do return { s with branches := ← s.branches.repeatLast least most }

/-- The whole expression, at the end of the text. -/
def finish (s : Reading) : Except Flaw Part :=
  if s.outer.isEmpty then .ok s.branches.finish else .error .openGroup

end Reading

/-- The expression that the rest of a text completes.  Each round reads at least one character, so
the length of the text is fuel enough. -/
def parseFrom : Nat → Reading → List Char → Except Flaw Part
  | 0, _, _ => .error .tooLarge
  | fuel + 1, s, cs =>
      match skipSpace s.flags cs with
      | [] => s.finish
      | c :: rest => do
          let (t, rest) ← token s.flags c rest
          parseFrom fuel (← s.apply t) rest

/-- The expression that a text describes, with how deeply parts are nested in it. -/
def parse (f : Flags) (text : String) : Except Flaw Part :=
  parseFrom (text.toList.length + 1) { flags := f } text.toList

end Redelivery.Regex
