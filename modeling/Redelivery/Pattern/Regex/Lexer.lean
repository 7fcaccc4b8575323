import Redelivery.Pattern.Regex.Flaw
import Redelivery.Pattern.Regex.Property

/-!
# Pattern — Regex — Lexer

The smallest parts of the text of a regular expression: flags, escapes, numbers, names, and the
classes that are written with a letter or by name.  Each reader takes the text that is left and
gives back what follows the part that it read.
-/

namespace Redelivery.Regex

/-- The flags in force at some point of an expression. -/
structure Flags where
  ignoreCase : Bool := false
  multiLine : Bool := false
  dotAll : Bool := false
  /-- Classes mean characters of Unicode, not of ASCII. -/
  unicode : Bool := true
  /-- A carriage return ends a line too. -/
  returns : Bool := false
  /-- Blanks and comments between the parts of an expression mean nothing. -/
  spaced : Bool := false
  deriving Repr, DecidableEq

/-- The text from the next line on. -/
def skipLine (cs : List Char) : List Char := (cs.dropWhile (· ≠ '\n')).drop 1

/-- The text after blanks and comments, if these mean nothing; at most `fuel` of either. -/
def skipSpaceFrom (spaced : Bool) : Nat → List Char → List Char
  | 0, cs => cs
  | fuel + 1, cs =>
      if !spaced then cs
      else
        match cs with
        | '#' :: rest => skipSpaceFrom spaced fuel (skipLine rest)
        | c :: rest => if Text.isBlank c then skipSpaceFrom spaced fuel rest else cs
        | [] => []

/-- The text after blanks and comments, if these mean nothing. -/
def skipSpace (f : Flags) (cs : List Char) : List Char := skipSpaceFrom f.spaced cs.length cs

/-- The characters in front that `p` holds of and the text after them, for at most `fuel` of them.
Behind each one blanks and comments are skipped, if these mean nothing. -/
def readWhileFrom (f : Flags) (p : Char → Bool) : Nat → List Char → List Char × List Char
  | 0, cs => ([], cs)
  | _, [] => ([], [])
  | fuel + 1, c :: rest =>
      if p c then
        let (read, rest) := readWhileFrom f p fuel (skipSpace f rest)
        (c :: read, rest)
      else ([], c :: rest)

/-- The characters in front that `p` holds of, without blanks and comments if these mean nothing,
and the text after them. -/
def readWhile (f : Flags) (p : Char → Bool) (cs : List Char) : List Char × List Char :=
  readWhileFrom f p cs.length cs

/-- What stands in braces, and the text after the closing one; it starts after the opening one. -/
def inBraces (f : Flags) (cs : List Char) : Except Flaw (List Char × List Char) :=
  match readWhile f (· ≠ '\x7d') (skipSpace f cs) with
  | (_, []) => .error .escape
  | (inner, _ :: rest) => .ok (inner, rest)

/-- The value of a hexadecimal digit. -/
def hexValue? (c : Char) : Option Nat :=
  if c.isDigit then some (c.toNat - '0'.toNat)
  else if 'a' ≤ c && c ≤ 'f' then some (c.toNat - 'a'.toNat + 10)
  else if 'A' ≤ c && c ≤ 'F' then some (c.toNat - 'A'.toNat + 10)
  else none

/-- A code point as a character. -/
def charOf (n : Nat) : Except Flaw Nat := if n.isValidChar then .ok n else .error .codePoint

/-- The value of `n` hexadecimal digits, between which blanks may stand if they mean nothing. -/
def hexFixed (f : Flags) : Nat → Nat → List Char → Except Flaw (Nat × List Char)
  | 0, acc, cs => return (← charOf acc, cs)
  | n + 1, acc, cs =>
      match skipSpace f cs with
      | c :: rest =>
          match hexValue? c with
          | some v => hexFixed f n (acc * 16 + v) rest
          | none => .error .escape
      | [] => .error .escape

/-- The value of hexadecimal digits. -/
def hexOf (digits : List Char) : Except Flaw Nat :=
  match digits, digits.mapM hexValue? with
  | _ :: _, some vs => charOf (vs.foldl (fun acc v => acc * 16 + v) 0)
  | _, _ => .error .escape

/-- The characters that mean something other than themselves. -/
def isMeta (c : Char) : Bool := "\\.+*?()|[]\x7b\x7d^$#&-~".toList.contains c

/-- The characters that a backslash leaves as they are. -/
def isEscapable (c : Char) : Bool :=
  isMeta c || (c.toNat < 128 && !c.isAlphanum && c ≠ '<' && c ≠ '>')

/-- What an escape stands for. -/
inductive Escaped where
  /-- A character; `raw` if it was given as a number of two digits. -/
  | char (n : Nat) (raw : Bool)
  | set (s : CharSet) (negated : Bool)
  | look (l : Look)

/-- The decimal digits of ASCII. -/
def asciiDigit : CharSet := .range 48 57

/-- The letters of ASCII. -/
def asciiAlpha : CharSet := .union (.range 65 90) (.range 97 122)

/-- The set that a letter names, within ASCII or not. -/
def letterClass (unicode : Bool) (c : Char) : CharSet :=
  match c with
  | 'd' => if unicode then .digit else asciiDigit
  | 's' => if unicode then .space else .union (.range 9 13) (.range 32 32)
  | _ => if unicode then .word else .union (.union asciiAlpha asciiDigit) (.range 95 95)

/-- The sets that can be named within brackets. -/
def namedClass? : String → Option CharSet
  | "alnum" => some (.union asciiAlpha asciiDigit)
  | "alpha" => some asciiAlpha
  | "ascii" => some (.range 0 127)
  | "blank" => some (.union (.range 9 9) (.range 32 32))
  | "cntrl" => some (.union (.range 0 31) (.range 127 127))
  | "digit" => some asciiDigit
  | "graph" => some (.range 33 126)
  | "lower" => some (.range 97 122)
  | "print" => some (.range 32 126)
  | "punct" =>
      some (.union (.union (.range 33 47) (.range 58 64)) (.union (.range 91 96) (.range 123 126)))
  | "space" => some (.union (.range 9 13) (.range 32 32))
  | "upper" => some (.range 65 90)
  | "word" => some (.union (.union asciiAlpha asciiDigit) (.range 95 95))
  | "xdigit" => some (.union asciiDigit (.union (.range 65 70) (.range 97 102)))
  | _ => none

/-- The word boundaries that have a name. -/
def boundaryOf : String → Except Flaw Look
  | "start" => .ok .wordStart
  | "end" => .ok .wordEnd
  | "start-half" => .ok .wordStartHalf
  | "end-half" => .ok .wordEndHalf
  | _ => .error .wordBoundary

/-- The set with all cases of its characters, if case does not matter. -/
def cased (f : Flags) (s : CharSet) : CharSet :=
  if !f.ignoreCase then s
  else if f.unicode then .folded s
  else .inter (.folded s) (.range 0 127)

/-- The name of a property, which is one letter or stands in braces. -/
def propertyName (f : Flags) (cs : List Char) : Except Flaw (List Char × List Char) :=
  match skipSpace f cs with
  | [] => .error .escape
  | '\x7b' :: rest => inBraces f rest
  | c :: rest => .ok ([c], rest)

/-- The characters of the property with a name. -/
def propertySet (f : Flags) (name : List Char) : Except Flaw CharSet :=
  match property? name with
  | some s => if f.unicode then .ok (cased f s) else .error .notText
  | none => .error .property

/-- How many digits a code point has that is given after one of three letters. -/
def digitCount (kind : Char) : Nat := if kind = 'x' then 2 else if kind = 'u' then 4 else 8

/-- The character whose number stands in braces, or has as many digits as `kind` asks for. -/
def codePoint (f : Flags) (kind : Char) (cs : List Char) : Except Flaw (Escaped × List Char) :=
  match skipSpace f cs with
  | '\x7b' :: rest => do
      let (digits, rest) ← inBraces f rest
      return (.char (← hexOf digits) false, rest)
  | rest => do
      let (n, rest) ← hexFixed f (digitCount kind) 0 rest
      return (.char n (kind = 'x'), rest)

/-- A word boundary, with a name in braces or without.  Braces without a letter or a dash at their
start have nothing to do with it. -/
def boundary (f : Flags) : List Char → Except Flaw (Escaped × List Char)
  | '\x7b' :: inner =>
      let isName (c : Char) : Bool := c.isAlpha || c = '-'
      match skipSpace f inner with
      | [] => .error .wordBoundary
      | c :: cs =>
          if !isName c then .ok (.look .wordBoundary, '\x7b' :: inner)
          else
            match readWhile f isName (c :: cs) with
            | (name, '\x7d' :: rest) => do
                return (.look (← boundaryOf (String.ofList name)), rest)
            | _ => .error .wordBoundary
  | cs => .ok (.look .wordBoundary, cs)

/-- What stands after a backslash. -/
def escaped (f : Flags) : List Char → Except Flaw (Escaped × List Char)
  | [] => .error .escape
  | c :: rest =>
      if c.isDigit then .error .backreference
      else if c = 'x' || c = 'u' || c = 'U' then codePoint f c rest
      else if c = 'p' || c = 'P' then do
        let (name, rest) ← propertyName f rest
        return (.set (← propertySet f name) (c = 'P'), rest)
      else if c = 'd' || c = 's' || c = 'w' then .ok (.set (letterClass f.unicode c) false, rest)
      else if c = 'D' || c = 'S' || c = 'W' then
        .ok (.set (letterClass f.unicode c.toLower) true, rest)
      else if isEscapable c then .ok (.char c.toNat false, rest)
      else
        match c with
        | 'a' => .ok (.char 7 false, rest)
        | 'f' => .ok (.char 12 false, rest)
        | 't' => .ok (.char 9 false, rest)
        | 'n' => .ok (.char 10 false, rest)
        | 'r' => .ok (.char 13 false, rest)
        | 'v' => .ok (.char 11 false, rest)
        | 'A' => .ok (.look .textStart, rest)
        | 'z' => .ok (.look .textEnd, rest)
        | 'B' => .ok (.look .noWordBoundary, rest)
        | '<' => .ok (.look .wordStart, rest)
        | '>' => .ok (.look .wordEnd, rest)
        | 'b' => boundary f rest
        | _ => .error .escape

/-- A number of 32 bits, if there is one, with blanks around it. -/
def decimal? (f : Flags) (cs : List Char) : Except Flaw (Option Nat × List Char) :=
  let (digits, rest) := readWhile f Char.isDigit (cs.dropWhile Text.isBlank)
  let rest := (readWhile f Text.isBlank rest).2
  if digits.isEmpty then .ok (none, rest)
  else
    let n := Nat.ofDigitChars 10 digits 0
    if n < UInt32.size then .ok (some n, rest) else .error .repetitionCount

/-- A number with what follows it: whether that is a comma or a closing brace, and the text after
it. -/
def boundEnd : Option Nat × List Char → Except Flaw ((Nat × Bool) × List Char)
  | (some n, ',' :: rest) => .ok ((n, true), rest)
  | (some n, '\x7d' :: rest) => .ok ((n, false), rest)
  | _ => .error .repetitionCount

/-- A bound of a repetition, whether there is to be another one, and the text after it. -/
def bound (f : Flags) (cs : List Char) : Except Flaw ((Nat × Bool) × List Char) :=
  decimal? f cs >>= boundEnd

/-- The greater bound of a repetition: the least one, or if there is to be another, that one, which
may be left out. -/
def greaterBound (f : Flags) (least : Nat) (isMore : Bool) (cs : List Char) :
    Except Flaw (Option Nat × List Char) :=
  if !isMore then .ok (some least, cs)
  else
    match skipSpace f cs with
    | '\x7d' :: rest => .ok (none, rest)
    | rest => do
        let ((most, isMore), rest) ← bound f rest
        if isMore then throw .repetitionCount else return (some most, rest)

/-- The bounds of a repetition; the text starts after the opening brace. -/
def bounds (f : Flags) (cs : List Char) : Except Flaw ((Nat × Option Nat) × List Char) := do
  let ((least, isMore), rest) ← bound f (skipSpace f cs)
  let (most, rest) ← greaterBound f least isMore rest
  if most.all (least ≤ ·) then return ((least, most), rest) else throw .repetitionCount

/-- Whether a character can stand in the name of a group. -/
def isNameChar (first : Bool) (c : Char) : Bool :=
  c = '_' || alphabetic.contains c.toNat ||
    (!first && (c = '.' || c = '[' || c = ']' || numeric.contains c.toNat))

/-- The name of a group and what follows the closing bracket. -/
def groupName (cs : List Char) : Except Flaw (String × List Char) :=
  let name := cs.takeWhile (· ≠ '>')
  match name, cs.dropWhile (· ≠ '>') with
  | first :: others, _ :: rest =>
      if isNameChar true first && others.all (isNameChar false) then
        .ok (String.ofList name, rest)
      else .error .groupName
  | _, _ => .error .groupName

/-- Flags up to a colon or a closing parenthesis: those in force then, whether there were any,
whether it was a colon, and the text after it.  `seen` are the letters so far; `negative` says that
a dash came before, and `dangling` that it came last. -/
def flags (seen : List Char) (negative dangling : Bool) (f : Flags) :
    List Char → Except Flaw ((Flags × Bool × Bool) × List Char)
  | [] => .error .groupFlags
  | c :: rest =>
      if c = ':' || c = ')' then
        if dangling then .error .groupFlags
        else .ok ((f, !seen.isEmpty || negative, c = ':'), rest)
      else if c = '-' then
        if negative then .error .groupFlags else flags seen true true f rest
      else if seen.contains c then .error .groupFlags
      else
        let on := !negative
        match c with
        | 'i' => flags (c :: seen) negative false { f with ignoreCase := on } rest
        | 'm' => flags (c :: seen) negative false { f with multiLine := on } rest
        | 's' => flags (c :: seen) negative false { f with dotAll := on } rest
        | 'U' => flags (c :: seen) negative false f rest
        | 'u' => flags (c :: seen) negative false { f with unicode := on } rest
        | 'R' => flags (c :: seen) negative false { f with returns := on } rest
        | 'x' => flags (c :: seen) negative false { f with spaced := on } rest
        | _ => .error .groupFlags

end Redelivery.Regex
