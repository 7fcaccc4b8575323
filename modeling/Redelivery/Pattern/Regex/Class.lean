import Redelivery.Pattern.Regex.Lexer

/-!
# Pattern — Regex — Class

Character classes in brackets.  A class lists characters, ranges, named classes and further
classes in brackets; `&&`, `--` and `~~` intersect, subtract and compare what was listed before
with what follows, from left to right.  The classes that are still open form a stack
(`Frame`); without regard to case the other cases are added to a class before it is negated.
-/

namespace Redelivery.Regex

/-- How two listings of a class are combined. -/
inductive ClassOp where
  | inter
  | diff
  | symmDiff
  deriving Repr, DecidableEq

/-- The set that an operation makes of two. -/
def ClassOp.apply : ClassOp → CharSet → CharSet → CharSet
  | .inter, a, b => .inter a b
  | .diff, a, b => .diff a b
  | .symmDiff, a, b => .symmDiff a b

/-- Whether a set means anything beyond ASCII. -/
def hasWide (s : CharSet) : Bool := (List.range 128).any fun n => s.contains (n + 128)

/-- A set, provided that it does not mean a part of a character. -/
def asText (f : Flags) (s : CharSet) : Except Flaw CharSet :=
  if !f.unicode && hasWide s then .error .notText else .ok s

/-- A set, with how deeply parts are nested in what describes it. -/
structure Nested where
  set : CharSet
  depth : Nat := 0

/-- A class that is open. -/
structure Frame where
  negated : Bool
  /-- The listing before the last operation, together with that operation. -/
  left : Option (Nested × ClassOp) := none
  /-- The set of what was listed since, how many members that has, and the depth of the deepest. -/
  listed : CharSet := .empty
  count : Nat := 0
  deepest : Nat := 0

/-- What was listed since the last operation; several members are nested in their union. -/
def Frame.listing (frame : Frame) : Nested :=
  ⟨frame.listed, frame.deepest + if 1 < frame.count then 1 else 0⟩

/-- What an open class stands for so far. -/
def Frame.value (f : Flags) (frame : Frame) : Nested :=
  match frame.left with
  | none => frame.listing
  | some (x, op) =>
      ⟨op.apply (cased f x.set) (cased f frame.listed), max x.depth frame.listing.depth + 1⟩

/-- What a class stands for that is closed. -/
def Frame.close (f : Flags) (frame : Frame) : Nested :=
  let x := frame.value f
  let s := cased f x.set
  ⟨if frame.negated then .compl s else s, x.depth + 1⟩

/-- One more member of the listing. -/
def Frame.add (frame : Frame) (x : Nested) : Frame :=
  { frame with
    listed := .union frame.listed x.set
    count := frame.count + 1
    deepest := max frame.deepest x.depth }

/-- A new listing, to be combined with what there is. -/
def Frame.combine (f : Flags) (frame : Frame) (op : ClassOp) : Frame :=
  { negated := frame.negated, left := some (frame.value f, op) }

/-- Whether a class is negated. -/
def classSign (f : Flags) : List Char → Bool × List Char
  | '^' :: rest => (true, skipSpace f rest)
  | cs => (false, cs)

/-- A class with the dashes at its start, which stand for themselves. -/
def leadingDashes (f : Flags) : Nat → Frame → List Char → Frame × List Char
  | fuel + 1, frame, '-' :: rest =>
      leadingDashes f fuel (frame.add ⟨.range 45 45, 0⟩) (skipSpace f rest)
  | _, frame, cs => (frame, cs)

/-- A class with a bracket at its start, which stands for itself if there are no dashes. -/
def leadingBracket (f : Flags) (frame : Frame) : List Char → Except Flaw (Frame × List Char)
  | [] => .error .openClass
  | ']' :: rest =>
      if frame.count = 0 then
        match skipSpace f rest with
        | [] => .error .openClass
        | c :: rest => .ok (frame.add ⟨.range 93 93, 0⟩, c :: rest)
      else .ok (frame, ']' :: rest)
  | cs => .ok (frame, cs)

/-- A class that is opened; the text starts after the bracket. -/
def openClass (f : Flags) (cs : List Char) : Except Flaw (Frame × List Char) :=
  let (negated, cs) := classSign f (skipSpace f cs)
  let (frame, cs) := leadingDashes f cs.length { negated } cs
  leadingBracket f frame cs

/-- A named class from its name on. -/
def namedFrom (f : Flags) (negated : Bool) (cs : List Char) : Option (CharSet × List Char) := do
  let ':' :: ']' :: rest := cs.dropWhile (· ≠ ':') | none
  let s ← namedClass? (String.ofList (cs.takeWhile (· ≠ ':')))
  return (if negated then .compl (cased f s) else cased f s, rest)

/-- A named class such as `[:alpha:]`; the text starts after the first bracket. -/
def namedMember? (f : Flags) : List Char → Option (CharSet × List Char)
  | ':' :: '^' :: cs => namedFrom f true cs
  | ':' :: cs => namedFrom f false cs
  | _ => none

/-- A character or an escape within a class. -/
def memberItem (f : Flags) : List Char → Except Flaw (Escaped × List Char)
  | [] => .error .openClass
  | '\\' :: rest => escaped f rest
  | c :: rest => .ok (.char c.toNat false, rest)

/-- The character that bounds a range. -/
def boundOf (f : Flags) : Escaped → Except Flaw Nat
  | .char n _ => if !f.unicode && 127 < n then .error .notText else .ok n
  | _ => .error .classRange

/-- The set that an item of a class stands for. -/
def itemSet (f : Flags) : Escaped → Except Flaw CharSet
  | .char n raw => do
      let n ← boundOf f (.char n raw)
      return .range n n
  | .set s negated => .ok (if negated then .compl s else s)
  | .look _ => .error .classMember

/-- The range between two items. -/
def rangeOf (f : Flags) (first last : Escaped) : Except Flaw CharSet := do
  let low ← boundOf f first
  let high ← boundOf f last
  if low ≤ high then return .range low high else throw .classRange

/-- A member of a class from its first item on: a dash makes it a range, but not in front of a
bracket or another dash. -/
def memberAfter (f : Flags) (first : Escaped) (cs : List Char) :
    Except Flaw (CharSet × List Char) := do
  match skipSpace f cs with
  | [] => throw .openClass
  | '-' :: after =>
      match skipSpace f after with
      | [] => throw .openClass
      | ']' :: _ | '-' :: _ => return (← itemSet f first, '-' :: after)
      | after =>
          let (last, rest) ← memberItem f after
          return (← rangeOf f first last, rest)
  | rest => return (← itemSet f first, rest)

/-- A member of a class that is a character, an escape or a range of characters. -/
def classMember (f : Flags) (cs : List Char) : Except Flaw (CharSet × List Char) := do
  let (first, rest) ← memberItem f cs
  memberAfter f first rest

/-- What the class on top stands for, and the rest of the text.  Each round reads at least one
character, so the length of the text is fuel enough. -/
def classFrom (f : Flags) : Nat → Frame → List Frame → List Char →
    Except Flaw (Nested × List Char)
  | 0, _, _, _ => .error .openClass
  | fuel + 1, top, below, cs =>
      match skipSpace f cs with
      | [] => .error .openClass
      | '[' :: rest =>
          match namedMember? f rest with
          | some (s, rest) => classFrom f fuel (top.add ⟨s, 0⟩) below rest
          | none => do
              let (inner, rest) ← openClass f rest
              classFrom f fuel inner (top :: below) rest
      | ']' :: rest =>
          match below with
          | [] => return ({ top.close f with set := ← asText f (top.close f).set }, rest)
          | outer :: below => classFrom f fuel (outer.add (top.close f)) below rest
      | '&' :: '&' :: rest => classFrom f fuel (top.combine f .inter) below rest
      | '-' :: '-' :: rest => classFrom f fuel (top.combine f .diff) below rest
      | '~' :: '~' :: rest => classFrom f fuel (top.combine f .symmDiff) below rest
      | cs => do
          let (s, rest) ← classMember f cs
          classFrom f fuel (top.add ⟨s, 0⟩) below rest

/-- What a class in brackets stands for, and the rest of the text; the text starts after the opening
bracket. -/
def bracketClass (f : Flags) (cs : List Char) : Except Flaw (Nested × List Char) := do
  let (top, rest) ← openClass f cs
  classFrom f (rest.length + 1) top [] rest

end Redelivery.Regex
