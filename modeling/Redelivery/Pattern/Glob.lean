/-!
# Pattern — Glob

Wildcard patterns over whole texts.  `?` stands for one character, `*` for any characters, `[…]`
and `[!…]` for one character in or outside a list of characters and ranges, and `**` between
slashes for any whole components of a path; everything else stands for itself.

`parse` turns the text of a pattern into pieces or says what is wrong and where (`Error`).
Matching tries a sequence on the shortest part first.  A piece that finds no character left ends
the search at once, since a longer part would only leave it less (`Outcome.exhausted`).
-/

namespace Redelivery.Glob

/-- A character or a range within brackets. -/
inductive Member where
  | single (c : Char)
  | range (low high : Char)
  deriving Repr, DecidableEq

/-- A piece of a pattern. -/
inductive Piece where
  | literal (c : Char)
  | anyChar
  | anySequence
  /-- Any whole components of a path. -/
  | anyComponents
  | among (members : List Member)
  | except (members : List Member)
  deriving Repr, DecidableEq

/-- What can be wrong with a pattern. -/
inductive Flaw where
  /-- Three or more stars in a row. -/
  | tooManyStars
  /-- Two stars that do not fill a component. -/
  | partialComponent
  /-- A bracket without its counterpart. -/
  | openRange
  deriving Repr, DecidableEq

/-- A flaw and the position of the character where it shows. -/
structure Error where
  position : Nat
  flaw : Flaw
  deriving Repr, DecidableEq

/-- The text of a flaw. -/
def Flaw.message : Flaw → String
  | .tooManyStars => "wildcards are either regular `*` or recursive `**`"
  | .partialComponent => "recursive wildcards must form a single path component"
  | .openRange => "invalid range pattern"

/-- The text of an error. -/
def Error.message (e : Error) : String :=
  s!"Pattern syntax error near position {e.position}: " ++ e.flaw.message

/-- The members listed between brackets: three characters with a dash in the middle are a range,
any other character stands for itself. -/
def members : List Char → List Member
  | a :: '-' :: b :: rest => .range a b :: members rest
  | a :: rest => .single a :: members rest
  | [] => []

/-- The characters up to the first closing bracket, of which there is at least one and the first
is not looked at, and those after it. -/
def bracketed? : List Char → Option (List Char × List Char)
  | [] => none
  | c :: rest =>
      let inner := rest.takeWhile (· ≠ ']')
      match rest.dropWhile (· ≠ ']') with
      | [] => none
      | _ :: after => some (c :: inner, after)

theorem length_bracketed? {cs inner after : List Char} (h : bracketed? cs = some (inner, after)) :
    after.length < cs.length := by
  cases cs with
  | nil => simp [bracketed?] at h
  | cons c rest =>
      simp only [bracketed?] at h
      have hle := (List.dropWhile_suffix (· ≠ ']') (l := rest)).length_le
      split at h
      · simp at h
      · rename_i e
        rw [e] at hle
        simp only [Option.some.injEq, Prod.mk.injEq] at h
        simp only [List.length_cons, ← h.2] at *
        omega

/-- Where a parse stands: the position, the character before it, and the pieces found, the last
one first. -/
structure Progress where
  position : Nat := 0
  before : Option Char := none
  pieces : List Piece := []

/-- One more piece, made of `n` characters of which `last` is the last. -/
def Progress.add (p : Progress) (n : Nat) (last : Char) (piece : Piece) : Progress :=
  ⟨p.position + n, some last, piece :: p.pieces⟩

/-- One more piece for whole components, made of `n` characters; two of them in a row are one
unless they begin the pattern. -/
def Progress.addComponents (p : Progress) (n : Nat) (last : Char) : Progress :=
  match p.pieces with
  | .anyComponents :: _ :: _ => ⟨p.position + n, some last, p.pieces⟩
  | _ => p.add n last .anyComponents

/-- The pieces of the rest of a pattern. -/
def parseFrom (p : Progress) : List Char → Except Error (List Piece)
  | [] => .ok p.pieces.reverse
  | '?' :: rest => parseFrom (p.add 1 '?' .anyChar) rest
  | '*' :: '*' :: '*' :: _ => .error ⟨p.position + 2, .tooManyStars⟩
  | '*' :: '*' :: rest =>
      if p.before = none ∨ p.before = some '/' then
        match rest with
        | [] => parseFrom (p.addComponents 2 '*') []
        | '/' :: rest => parseFrom (p.addComponents 3 '/') rest
        | _ => .error ⟨p.position + 2, .partialComponent⟩
      else .error ⟨p.position - 1, .partialComponent⟩
  | '*' :: rest => parseFrom (p.add 1 '*' .anySequence) rest
  | '[' :: '!' :: rest =>
      match h : bracketed? rest with
      | some (inner, after) =>
          have := length_bracketed? h
          parseFrom (p.add (inner.length + 3) ']' (.except (members inner))) after
      | none => .error ⟨p.position, .openRange⟩
  | '[' :: rest =>
      match h : bracketed? rest with
      | some (inner, after) =>
          have := length_bracketed? h
          parseFrom (p.add (inner.length + 2) ']' (.among (members inner))) after
      | none => .error ⟨p.position, .openRange⟩
  | c :: rest => parseFrom (p.add 1 c (.literal c)) rest
  termination_by cs => cs.length
  decreasing_by all_goals simp_all <;> omega

/-- The pieces of a pattern. -/
def parse (pattern : String) : Except Error (List Piece) := parseFrom {} pattern.toList

/-! ### Matching -/

/-- Whether two characters are the same, the case of ASCII letters apart if asked for. -/
def sameChar (caseSensitive : Bool) (a b : Char) : Bool :=
  if caseSensitive then a == b else a.toLower == b.toLower

/-- Whether a character lies in a range.  Without regard to case this is also so for the other
case of an ASCII letter, provided both ends of the range are letters. -/
def inRange (caseSensitive : Bool) (low high c : Char) : Bool :=
  (low ≤ c && c ≤ high) ||
    (!caseSensitive && low.isAlpha && high.isAlpha && low.toLower ≤ c.toLower &&
      c.toLower ≤ high.toLower)

/-- Whether a character is among the members of a bracket. -/
def isMember (caseSensitive : Bool) (ms : List Member) (c : Char) : Bool :=
  ms.any fun
    | .single a => sameChar caseSensitive c a
    | .range low high => inRange caseSensitive low high c

/-- How the comparison of a pattern with a text ends. -/
inductive Outcome where
  | matched
  | mismatch
  /-- No character was left where the pattern needs one. -/
  | exhausted
  deriving Repr, DecidableEq

/-- Tries `rest` after each further character; if `whole`, only after a slash or at the end. -/
def afterSome (rest : List Char → Outcome) (whole : Bool) : List Char → Outcome
  | [] => rest []
  | c :: cs =>
      if whole && c ≠ '/' then afterSome rest whole cs
      else
        match rest cs with
        | .mismatch => afterSome rest whole cs
        | o => o

/-- Tries `rest` on the whole text first. -/
def afterAny (rest : List Char → Outcome) (whole : Bool) (cs : List Char) : Outcome :=
  match rest cs with
  | .mismatch => afterSome rest whole cs
  | o => o

/-- One character that satisfies `p`, then `rest`. -/
def afterOne (p : Char → Bool) (rest : List Char → Outcome) : List Char → Outcome
  | [] => .exhausted
  | c :: cs => if p c then rest cs else .mismatch

/-- The comparison of pieces with a text. -/
def compare (caseSensitive : Bool) : List Piece → List Char → Outcome
  | [] => fun cs => if cs.isEmpty then .matched else .mismatch
  | .anySequence :: ps => afterAny (compare caseSensitive ps) false
  | .anyComponents :: ps => afterAny (compare caseSensitive ps) true
  | .anyChar :: ps => afterOne (fun _ => true) (compare caseSensitive ps)
  | .literal a :: ps => afterOne (fun c => sameChar caseSensitive c a) (compare caseSensitive ps)
  | .among ms :: ps => afterOne (isMember caseSensitive ms) (compare caseSensitive ps)
  | .except ms :: ps =>
      afterOne (fun c => !isMember caseSensitive ms c) (compare caseSensitive ps)

/-- Whether a text as a whole is one that the pieces describe. -/
def isMatch (caseSensitive : Bool) (ps : List Piece) (text : String) : Bool :=
  compare caseSensitive ps text.toList = .matched

end Redelivery.Glob
