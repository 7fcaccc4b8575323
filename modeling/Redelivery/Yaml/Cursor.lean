/-!
# Yaml — Cursor

A place in a text: what is left of it, and the line and the column where it begins.
-/

namespace Redelivery.Yaml

/-- Whether a character ends a line. -/
def isBreak (c : Char) : Bool := c == '\n' || c == '\u2028' || c == '\u2029'

/-- Whether a character only keeps others apart. -/
def isGap (c : Char) : Bool := c == ' ' || c == '\t'

/-- Whether a text is over, or goes on with a gap or a new line. -/
def startsBlank : List Char → Bool
  | [] => true
  | c :: _ => isGap c || isBreak c

/-- A text in which every line that ended in a carriage return or a next-line character ends in a
line feed. -/
def unifyBreaks : List Char → List Char
  | '\r' :: '\n' :: cs => '\n' :: unifyBreaks cs
  | c :: cs => (if c = '\r' ∨ c = '\x85' then '\n' else c) :: unifyBreaks cs
  | [] => []

/-- Whether a document may hold a character. -/
def isAllowed (c : Char) : Bool :=
  let n := c.toNat
  n == 9 || n == 10 || n == 13 || (0x20 ≤ n && n ≤ 0x7E) || n == 0x85 ||
    (0xA0 ≤ n && n ≤ 0xFFFD && n ≠ 0xFEFF) || 0x10000 ≤ n

/-- A place in a text. -/
structure Cursor where
  rest : List Char
  line : Nat := 0
  column : Nat := 0
  /-- How many characters come before it. -/
  offset : Nat := 0

namespace Cursor

/-- The place `n` characters later on the same line. -/
def advance (c : Cursor) (n : Nat) : Cursor :=
  { c with rest := c.rest.drop n, column := c.column + n, offset := c.offset + n }

/-- The start of the next line, for a place at the end of a line. -/
def nextLine (c : Cursor) : Cursor :=
  { rest := c.rest.drop 1, line := c.line + 1, column := 0, offset := c.offset + 1 }

/-- Whether the text is over or its next character belongs to a gap or ends a line. -/
def atBlank (c : Cursor) : Bool := startsBlank c.rest

/-- Whether a mark stands here that begins or ends a document. -/
def atDocumentMark (c : Cursor) : Bool :=
  c.column == 0 &&
    match c.rest with
    | '-' :: '-' :: '-' :: cs => startsBlank cs
    | '.' :: '.' :: '.' :: cs => startsBlank cs
    | _ => false

end Cursor

end Redelivery.Yaml
