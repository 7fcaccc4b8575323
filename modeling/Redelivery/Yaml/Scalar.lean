import Redelivery.Yaml.Cursor
import Redelivery.Yaml.Flaw

/-!
# Yaml — Scalar

The texts in a document: plain ones, ones in quotes, and blocks of lines.  In plain and quoted
texts a line break is a blank, and each further one after it is kept (`Gap.folded`).
-/

namespace Redelivery.Yaml

/-- What stands between two words: blanks on one line, or the breaks of one or more lines. -/
structure Gap where
  blanks : List Char := []
  breaks : List Char := []

/-- What a gap contributes to a text. -/
def Gap.folded (g : Gap) : List Char :=
  match g.breaks with
  | [] => g.blanks
  | ['\n'] => [' ']
  | '\n' :: more => more
  | breaks => breaks

/-- The breaks of blank lines from the start of a line on, and the place of the first word after
them.  Before column `least` no tab may stand. -/
def blankLines (least : Nat) : Nat → Cursor → List Char → Except Flaw (List Char × Cursor)
  | 0, c, breaks => .ok (breaks, c)
  | lines + 1, c, breaks =>
      let blanks := c.rest.takeWhile isGap
      if (blanks.take (least - c.column)).contains '\t' then .error .tabInIndentation
      else
        let c := c.advance blanks.length
        match c.rest with
        | b :: _ =>
            if isBreak b then blankLines least lines c.nextLine (breaks ++ [b])
            else .ok (breaks, c)
        | [] => .ok (breaks, c)

/-- The gap at a place, and the place after it. -/
def readGap (least : Nat) (c : Cursor) : Except Flaw (Gap × Cursor) :=
  let blanks := c.rest.takeWhile isGap
  let c := c.advance blanks.length
  match c.rest with
  | b :: _ =>
      if isBreak b then do
        let (breaks, c) ← blankLines least c.rest.length c.nextLine [b]
        return ({ breaks }, c)
      else .ok ({ blanks }, c)
  | [] => .ok ({ blanks }, c)

/-! ### Plain texts -/

/-- The characters that mean something in flow collections. -/
def isFlowMark (c : Char) : Bool := ",[]\x7b\x7d".toList.contains c

/-- How many characters belong to a plain word. -/
def wordLength (inFlow : Bool) : List Char → Except Flaw Nat
  | [] => .ok 0
  | c :: cs =>
      if isGap c || isBreak c || (inFlow && isFlowMark c) then .ok 0
      else if c == ':' && startsBlank cs then .ok 0
      else if c == ':' && inFlow && (cs.head?.any fun d => d == '?' || isFlowMark d) then
        .error .strayColon
      else (wordLength inFlow cs).map (· + 1)

/-- A text that was read, whether it ended with a line, and the place after it. -/
structure PlainText where
  text : List Char
  endsLine : Bool
  next : Cursor

/-- The rest of a plain text from a place between words on, where `gap` separates it from `text`.
Outside of flow collections it ends with the first line that is not deeper than `indent`. -/
def plainFrom (indent : Int) (inFlow : Bool) : Nat → Cursor → List Char → Gap →
    Except Flaw PlainText
  | 0, c, text, gap => .ok ⟨text, !gap.breaks.isEmpty, c⟩
  | words + 1, c, text, gap => do
      let stop : PlainText := ⟨text, !gap.breaks.isEmpty, c⟩
      if c.atDocumentMark || c.rest.head? == some '#' then return stop
      let n ← wordLength inFlow c.rest
      if n = 0 then return stop
      let text := text ++ gap.folded ++ c.rest.take n
      let c := c.advance n
      if c.rest.isEmpty || !c.atBlank then return ⟨text, false, c⟩
      let (gap, c) ← readGap (indent + 1).toNat c
      if !inFlow && (c.column : Int) ≤ indent then return ⟨text, !gap.breaks.isEmpty, c⟩
      plainFrom indent inFlow words c text gap

/-- The plain text at a place. -/
def readPlain (indent : Int) (inFlow : Bool) (c : Cursor) : Except Flaw PlainText :=
  plainFrom indent inFlow c.rest.length c [] {}

/-! ### Quoted texts -/

/-- The characters that an escape of one letter stands for. -/
def escapes : List (Char × Nat) :=
  [('0', 0), ('a', 7), ('b', 8), ('t', 9), ('\t', 9), ('n', 10), ('v', 11), ('f', 12), ('r', 13),
    ('e', 27), (' ', 0x20), ('"', 0x22), ('/', 0x2F), ('\\', 0x5C), ('N', 0x85), ('_', 0xA0),
    ('L', 0x2028), ('P', 0x2029)]

/-- How many hexadecimal digits follow the letter of an escape. -/
def escapeDigits : List (Char × Nat) := [('x', 2), ('u', 4), ('U', 8)]

/-- The value of a hexadecimal digit. -/
def hexDigit? (c : Char) : Option Nat :=
  if c.isDigit then some (c.toNat - '0'.toNat)
  else if 'a' ≤ c && c ≤ 'f' then some (c.toNat - 'a'.toNat + 10)
  else if 'A' ≤ c && c ≤ 'F' then some (c.toNat - 'A'.toNat + 10)
  else none

/-- The character of an escape and how many characters it takes after the backslash. -/
def readEscape (cs : List Char) : Except Flaw (Char × Nat) :=
  match cs with
  | [] => .error .unclosedQuote
  | letter :: cs =>
      match escapes.lookup letter, escapeDigits.lookup letter with
      | some n, _ => .ok (Char.ofNat n, 1)
      | none, none => .error .badEscape
      | none, some n =>
          match (cs.take n).mapM hexDigit? with
          | none => .error .badEscape
          | some ds =>
              let code := ds.foldl (fun acc d => acc * 16 + d) 0
              if ds.length = n ∧ code.isValidChar then .ok (Char.ofNat code, n + 1)
              else .error .badEscape

/-- The rest of a quoted text, where `text` is what comes before it, the last character first. -/
def quotedFrom (isDouble : Bool) : Nat → Cursor → List Char → Except Flaw (List Char × Cursor)
  | 0, _, _ => .error .unclosedQuote
  | fuel + 1, c, text => do
      if c.atDocumentMark then throw .unclosedQuote
      match isDouble, c.rest with
      | _, [] => throw .unclosedQuote
      | false, '\'' :: '\'' :: _ => quotedFrom isDouble fuel (c.advance 2) ('\'' :: text)
      | false, '\'' :: _ => return (text.reverse, c.advance 1)
      | true, '"' :: _ => return (text.reverse, c.advance 1)
      | true, '\\' :: cs =>
          if cs.head?.any isBreak then
            let (breaks, c) ← blankLines 0 cs.length (c.advance 1).nextLine []
            quotedFrom isDouble fuel c (breaks.reverse ++ text)
          else
            let (e, n) ← readEscape cs
            quotedFrom isDouble fuel (c.advance (n + 1)) (e :: text)
      | _, ch :: _ =>
          if isGap ch || isBreak ch then
            let (gap, c) ← readGap 0 c
            quotedFrom isDouble fuel c (gap.folded.reverse ++ text)
          else quotedFrom isDouble fuel (c.advance 1) (ch :: text)

/-- The text in quotes after the opening quote. -/
def readQuoted (isDouble : Bool) (c : Cursor) : Except Flaw (List Char × Cursor) :=
  quotedFrom isDouble (c.rest.length + 1) c []

/-! ### Blocks of lines -/

/-- What becomes of the line breaks at the end of a block. -/
inductive Chomping where
  /-- None is kept. -/
  | strip
  /-- One is kept. -/
  | clip
  /-- All are kept. -/
  | keep
  deriving DecidableEq

/-- What stands in the first line of a block. -/
structure BlockHeader where
  chomping : Chomping := .clip
  /-- How much deeper the block is than what surrounds it. -/
  increment : Option Nat := none

/-- The header at a place after the mark of a block, and the place after its line. -/
def readBlockHeader (c : Cursor) : Except Flaw (BlockHeader × Cursor) :=
  let chomping? : Char → Option Chomping
    | '+' => some .keep
    | '-' => some .strip
    | _ => none
  let digit? (ch : Char) : Option Nat := if ch.isDigit then some (ch.toNat - '0'.toNat) else none
  let (header, taken) : BlockHeader × Nat := match c.rest with
    | a :: b :: _ =>
        match chomping? a, digit? a, chomping? b, digit? b with
        | some k, _, _, some d => ({ chomping := k, increment := some d }, 2)
        | some k, _, _, none => ({ chomping := k }, 1)
        | none, some d, some k, _ => ({ chomping := k, increment := some d }, 2)
        | none, some d, none, _ => ({ increment := some d }, 1)
        | none, none, _, _ => ({}, 0)
    | [a] =>
        match chomping? a, digit? a with
        | some k, _ => ({ chomping := k }, 1)
        | none, some d => ({ increment := some d }, 1)
        | none, none => ({}, 0)
    | [] => ({}, 0)
  let c := c.advance taken
  let c := c.advance (c.rest.takeWhile isGap).length
  let c := if c.rest.head? == some '#' then
      c.advance (c.rest.takeWhile (!isBreak ·)).length
    else c
  if header.increment = some 0 then .error .badBlockHeader
  else
    match c.rest with
    | [] => .ok (header, c)
    | b :: _ => if isBreak b then .ok (header, c.nextLine) else .error .badBlockHeader

/-- The breaks of blank lines in a block whose text begins at column `indent`, the place after
them, and the most blanks that one of these lines begins with.  As long as the column is not known,
any number of blanks may come first. -/
def blockBreaks (indent : Option Nat) : Nat → Cursor → List Char → Nat →
    Except Flaw (List Char × Nat × Cursor)
  | 0, c, breaks, most => .ok (breaks, most, c)
  | lines + 1, c, breaks, most =>
      let blanks := (c.rest.takeWhile (· == ' ')).length
      let c := c.advance (match indent with
        | some n => min blanks (n - c.column)
        | none => blanks)
      let most := max most c.column
      match c.rest with
      | ch :: _ =>
          if ch == '\t' && indent.all (c.column < ·) then .error .tabInIndentation
          else if isBreak ch then blockBreaks indent lines c.nextLine (breaks ++ [ch]) most
          else .ok (breaks, most, c)
      | [] => .ok (breaks, most, c)

/-- The lines of a block as they were read so far. -/
structure BlockText where
  text : List Char := []
  /-- The break of the last line. -/
  lead : List Char := []
  /-- Whether the last line begins with a blank. -/
  isMoreIndented : Bool := false
  /-- The breaks of the blank lines after it. -/
  trail : List Char := []

/-- What stands between the last line of a block and the next one, which may begin with a blank. -/
def BlockText.joint (b : BlockText) (isLiteral nextIsMoreIndented : Bool) : List Char :=
  if !isLiteral && b.lead.head? == some '\n' && !b.isMoreIndented && !nextIsMoreIndented then
    if b.trail.isEmpty then [' '] else b.trail
  else b.lead ++ b.trail

/-- The lines of a block that begin at column `indent`. -/
def blockLines (isLiteral : Bool) (indent : Nat) : Nat → Cursor → BlockText →
    Except Flaw (BlockText × Cursor)
  | 0, c, b => .ok (b, c)
  | lines + 1, c, b =>
      if c.column ≠ indent ∨ c.rest.isEmpty then .ok (b, c)
      else do
        let isMoreIndented := c.rest.head?.any isGap
        let line := c.rest.takeWhile (!isBreak ·)
        let text := b.text ++ b.joint isLiteral isMoreIndented ++ line
        let c := c.advance line.length
        let lead := c.rest.take 1
        let c := if lead.isEmpty then c else c.nextLine
        let (trail, _, c) ← blockBreaks (some indent) c.rest.length c [] 0
        blockLines isLiteral indent lines c { text, lead, isMoreIndented, trail }

/-- The block of lines after its mark; `outer` is the column of what surrounds it. -/
def readBlock (isLiteral : Bool) (outer : Int) (c : Cursor) : Except Flaw (List Char × Cursor) := do
  let (header, c) ← readBlockHeader c
  let given := header.increment.map fun n => (max outer 0).toNat + n
  let (trail, most, c) ← blockBreaks given (c.rest.length + 1) c [] 0
  let indent := given.getD (max most (max (outer + 1).toNat 1))
  let (b, c) ← blockLines isLiteral indent (c.rest.length + 1) c { trail }
  let text := match header.chomping with
    | .strip => b.text
    | .clip => b.text ++ b.lead
    | .keep => b.text ++ b.lead ++ b.trail
  return (text, c)

end Redelivery.Yaml
