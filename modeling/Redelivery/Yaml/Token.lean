import Redelivery.Yaml.Scalar

/-!
# Yaml — Token

The marks and the texts of a document in order, where the depth of lines is turned into marks of
its own that open and close block collections.

What comes before a colon is a key, which shows only at the colon.  So every text that may turn out
to be a key is remembered with its place among the tokens (`PendingKey`), and the colon puts the
mark of the key there.  A key stands on one line and is not longer than `longestKey`.
-/

namespace Redelivery.Yaml

/-- A part of a document. -/
inductive Token where
  | directive
  | documentStart
  | documentEnd
  | blockList
  | blockMap
  | blockEnd
  | flowList
  | flowListEnd
  | flowMap
  | flowMapEnd
  /-- The dash before an item of a block list. -/
  | entry
  | comma
  | key
  | value
  | alias (name : String)
  | anchor (name : String)
  | tag (name : String)
  | scalar (isPlain : Bool) (text : String)
  deriving Repr, DecidableEq

/-- Something that is a key if a colon follows. -/
structure PendingKey where
  /-- How many tokens come before it. -/
  tokens : Nat
  line : Nat
  column : Nat
  offset : Nat
  /-- Whether nothing but a key can stand there. -/
  isRequired : Bool

/-- How far a document is read. -/
structure Scan where
  cursor : Cursor
  /-- The column of the block collection around, or `-1` outside of all. -/
  indent : Int := -1
  /-- The columns of the block collections around that one. -/
  outer : List Int := []
  pending : Option PendingKey := none
  /-- What may be keys in the collections around the flow collections, the nearest first. -/
  pendingOuter : List (Option PendingKey) := []
  /-- Whether a key may begin here. -/
  keyAllowed : Bool := true
  tokens : List Token := []

namespace Scan

/-- How long a key may be. -/
def longestKey : Nat := 1024

/-- Whether the place is in a flow collection. -/
def inFlow (s : Scan) : Bool := !s.pendingOuter.isEmpty

/-- One more token. -/
def push (s : Scan) (t : Token) : Scan := { s with tokens := s.tokens ++ [t] }

/-- One more token, and the place after `n` characters. -/
def take (s : Scan) (n : Nat) (t : Token) : Scan :=
  { s.push t with cursor := s.cursor.advance n }

/-- Nothing that may be a key, unless it has to be one. -/
def dropPending (s : Scan) : Except Flaw Scan :=
  if s.pending.any (·.isRequired) then .error .keyWithoutValue else .ok { s with pending := none }

/-- Remembers that a key may begin here. -/
def savePending (s : Scan) : Except Flaw Scan := do
  if !s.keyAllowed then return s
  let s ← s.dropPending
  let key : PendingKey :=
    { tokens := s.tokens.length, line := s.cursor.line, column := s.cursor.column
      offset := s.cursor.offset, isRequired := !s.inFlow && s.indent = s.cursor.column }
  return { s with pending := some key }

/-- Whether something that might have been a key cannot be one any more. -/
def isStale (c : Cursor) (k : PendingKey) : Bool :=
  k.line < c.line || k.offset + longestKey < c.offset

/-- Forgets what cannot be a key any more. -/
def dropStale (s : Scan) : Except Flaw Scan := do
  let keep (k : Option PendingKey) : Except Flaw (Option PendingKey) :=
    match k with
    | none => .ok none
    | some k =>
        if !isStale s.cursor k then .ok (some k)
        else if k.isRequired then .error .keyWithoutValue
        else .ok none
  return { s with pending := ← keep s.pending, pendingOuter := ← s.pendingOuter.mapM keep }

/-- Opens a block collection at a column that is deeper than the one around; its mark comes after
`n` tokens. -/
def openBlock (s : Scan) (column : Nat) (n : Nat) (t : Token) : Scan :=
  if !s.inFlow && s.indent < column then
    { s with
      outer := s.indent :: s.outer, indent := column, tokens := s.tokens.insertIdx n t }
  else s

/-- Closes the block collections whose columns are beyond `column`, given those around. -/
def closeFrom (column : Int) (s : Scan) : List Int → Scan
  | [] => s
  | next :: outer =>
      if column < s.indent then
        closeFrom column { s.push .blockEnd with indent := next, outer } outer
      else s

/-- Closes the block collections whose columns are beyond `column`. -/
def closeBlocks (s : Scan) (column : Int) : Scan :=
  if s.inFlow then s else closeFrom column s s.outer

/-- The place of the next token, after gaps, comments and line breaks. -/
def skipGaps : Nat → Scan → Scan
  | 0, s => s
  | fuel + 1, s =>
      let isSkipped (c : Char) := c == ' ' || (c == '\t' && (s.inFlow || !s.keyAllowed))
      let c := s.cursor.advance (s.cursor.rest.takeWhile isSkipped).length
      let c := if c.rest.head? == some '#' then
          c.advance (c.rest.takeWhile (!isBreak ·)).length
        else c
      let s := { s with cursor := c }
      match c.rest with
      | b :: _ =>
          if isBreak b then
            skipGaps fuel { s with cursor := c.nextLine, keyAllowed := s.keyAllowed || !s.inFlow }
          else s
      | [] => s

/-- A mark that begins or ends a document, or a directive. -/
def documentToken (s : Scan) (n : Nat) (t : Token) : Except Flaw Scan := do
  let s ← (s.closeBlocks (-1)).dropPending
  return { s.take n t with keyAllowed := false }

/-- Whether a line is a directive that is known. -/
def isDirective (line : List Char) : Bool :=
  match (String.ofList line).splitToList isGap |>.filter (· ≠ "") with
  | "%YAML" :: version :: rest =>
      (version == "1.1" || version == "1.2") && (rest.head?.all (·.startsWith "#"))
  | "%TAG" :: _ :: _ :: rest => rest.head?.all (·.startsWith "#")
  | _ => false

/-- A directive, which takes the rest of the line. -/
def directive (s : Scan) : Except Flaw Scan :=
  let line := s.cursor.rest.takeWhile (!isBreak ·)
  if isDirective line then s.documentToken line.length .directive else .error .badDirective

/-- The mark that begins a flow collection. -/
def flowStart (s : Scan) (t : Token) : Except Flaw Scan := do
  let s ← s.savePending
  return { s.take 1 t with
    pending := none, pendingOuter := s.pending :: s.pendingOuter, keyAllowed := true }

/-- The mark that ends a flow collection. -/
def flowEnd (s : Scan) (t : Token) : Except Flaw Scan := do
  let s ← s.dropPending
  let s := { s.take 1 t with keyAllowed := false }
  match s.pendingOuter with
  | [] => return s
  | pending :: pendingOuter => return { s with pending, pendingOuter }

/-- A comma. -/
def comma (s : Scan) : Except Flaw Scan := do
  return { (← s.dropPending).take 1 .comma with keyAllowed := true }

/-- The dash before an item. -/
def blockEntry (s : Scan) : Except Flaw Scan := do
  if !s.inFlow && !s.keyAllowed then throw .misplacedMark
  let s ← (s.openBlock s.cursor.column s.tokens.length .blockList).dropPending
  return { s.take 1 .entry with keyAllowed := true }

/-- The question mark before a key. -/
def explicitKey (s : Scan) : Except Flaw Scan := do
  if !s.inFlow && !s.keyAllowed then throw .misplacedMark
  let s ← (s.openBlock s.cursor.column s.tokens.length .blockMap).dropPending
  return { s.take 1 .key with keyAllowed := !s.inFlow }

/-- The colon before a value. -/
def valueMark (s : Scan) : Except Flaw Scan := do
  match s.pending with
  | some k =>
      let s := { s with tokens := s.tokens.insertIdx k.tokens .key, pending := none }
      let s := s.openBlock k.column k.tokens .blockMap
      return { s.take 1 .value with keyAllowed := false }
  | none =>
      if !s.inFlow && !s.keyAllowed then throw .misplacedMark
      let s := s.openBlock s.cursor.column s.tokens.length .blockMap
      return { s.take 1 .value with keyAllowed := !s.inFlow }

/-- Whether a character may stand in the name of an anchor. -/
def isNameChar (c : Char) : Bool := c.isAlphanum || c == '_' || c == '-'

/-- An anchor or an alias after its mark. -/
def name (s : Scan) (token : String → Token) : Except Flaw Scan := do
  let s ← s.savePending
  let name := (s.cursor.rest.drop 1).takeWhile isNameChar
  let c := s.cursor.advance (name.length + 1)
  let endsWell := c.atBlank || c.rest.head?.any fun ch => "?:,]\x7d%@\x60".toList.contains ch
  if name.isEmpty || !endsWell then throw .badName
  return { s.take (name.length + 1) (token (String.ofList name)) with keyAllowed := false }

/-- What the full name of a tag begins with that is written with two marks. -/
def coreTagStart : List Char := "tag:yaml.org,2002:".toList

/-- The name of a tag, if it needs no declaration; the short form of a full name with two marks is
taken for it. -/
def tagName? (cs : List Char) : Option String :=
  match cs with
  | '!' :: '<' :: more =>
      if more.getLast? = some '>' then
        match coreTagStart.isPrefixOf? more.dropLast with
        | some name => some (String.ofList ('!' :: '!' :: name))
        | none => some (String.ofList more.dropLast)
      else none
  | '!' :: '!' :: more =>
      if more.isEmpty || more.contains '!' then none else some (String.ofList cs)
  | '!' :: more => if more.contains '!' then none else some (String.ofList cs)
  | _ => none

/-- Whether a character may stand in a tag. -/
def isTagChar (c : Char) : Bool := isNameChar c || ";/?:@&=+$.!~*'()%<>".toList.contains c

/-- A tag. -/
def tag (s : Scan) : Except Flaw Scan := do
  let s ← s.savePending
  let text := s.cursor.rest.takeWhile isTagChar
  let next := s.cursor.advance text.length
  if !next.atBlank && !(s.inFlow && next.rest.head? = some ',') then throw .badTag
  match tagName? text with
  | some name => return { s.take text.length (.tag name) with keyAllowed := false }
  | none => throw .badTag

/-- A block of lines. -/
def block (s : Scan) (isLiteral : Bool) : Except Flaw Scan := do
  let s ← s.dropPending
  let (text, cursor) ← readBlock isLiteral s.indent (s.cursor.advance 1)
  return { s.push (.scalar false (String.ofList text)) with cursor, keyAllowed := true }

/-- A text in quotes. -/
def quoted (s : Scan) (isDouble : Bool) : Except Flaw Scan := do
  let s ← s.savePending
  let (text, cursor) ← readQuoted isDouble (s.cursor.advance 1)
  return { s.push (.scalar false (String.ofList text)) with cursor, keyAllowed := false }

/-- A plain text. -/
def plain (s : Scan) : Except Flaw Scan := do
  let s ← s.savePending
  let t ← readPlain s.indent s.inFlow s.cursor
  return { s.push (.scalar true (String.ofList t.text)) with
    cursor := t.next, keyAllowed := t.endsLine }

/-- Whether a plain text may begin with a character, given what follows it. -/
def startsPlain (inFlow : Bool) (c : Char) (cs : List Char) : Bool :=
  if c == '-' then !(cs.head?.any isGap)
  else if c == '?' || c == ':' then !inFlow && !startsBlank cs
  else !("-?:,[]\x7b\x7d#&*!|>'\"%@\x60".toList.contains c)

/-- The token at a place, which begins with `c`. -/
def token (s : Scan) (c : Char) (cs : List Char) : Except Flaw Scan :=
  if s.cursor.column = 0 ∧ c = '%' then s.directive
  else if s.cursor.atDocumentMark then
    s.documentToken 3 (if c = '-' then .documentStart else .documentEnd)
  else
    match c with
    | '[' => s.flowStart .flowList
    | '\x7b' => s.flowStart .flowMap
    | ']' => s.flowEnd .flowListEnd
    | '\x7d' => s.flowEnd .flowMapEnd
    | ',' => s.comma
    | '*' => s.name .alias
    | '&' => s.name .anchor
    | '!' => s.tag
    | '\'' => s.quoted false
    | '"' => s.quoted true
    | c =>
        if c = '-' ∧ startsBlank cs then s.blockEntry
        else if c = '?' ∧ (s.inFlow || startsBlank cs) then s.explicitKey
        else if c = ':' ∧ (s.inFlow || startsBlank cs) then s.valueMark
        else if (c = '|' ∨ c = '>') ∧ !s.inFlow then s.block (c = '|')
        else if startsPlain s.inFlow c cs then s.plain
        else .error .strayCharacter

/-- The tokens from a place on; every token but the closing marks takes a character. -/
def run : Nat → Scan → Except Flaw (List Token)
  | 0, s => .ok s.tokens
  | fuel + 1, s => do
      let s ← (skipGaps (s.cursor.rest.length + 1) s).dropStale
      let s := s.closeBlocks s.cursor.column
      match s.cursor.rest with
      | [] => return (← (s.closeBlocks (-1)).dropPending).tokens
      | c :: cs => run fuel (← s.token c cs)

end Scan

/-- The tokens of a text. -/
def tokens (text : String) : Except Flaw (List Token) :=
  let cs := match text.toList with
    | '\uFEFF' :: cs => cs
    | cs => cs
  if !cs.all isAllowed then .error .forbiddenCharacter
  else
    let cs := unifyBreaks cs
    Scan.run (cs.length + 1) { cursor := { rest := cs } }

end Redelivery.Yaml
