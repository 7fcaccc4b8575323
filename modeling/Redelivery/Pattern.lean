import Redelivery.ConfigurationError
import Redelivery.Text.Affix

/-!
# Pattern

Patterns for the names of topics: a name, a glob, or a regular expression that describes the whole
name.  The text of a pattern may say which of the three it is (`exact:`, `glob:`, `regex:`);
otherwise the default given with it decides.

Regular expressions are left to an engine (`Regex.Engine`).  A pattern hands it a text, keeps the
program that this is built into, and has the program look for a match.
-/

namespace Redelivery

/-- What builds programs from the texts of regular expressions, and runs them. -/
structure Regex.Engine where
  Program : Type
  /-- The program of an expression, for which case matters or not, or why there is none. -/
  build : (ignoreCase : Bool) → (text : String) → Except String Program
  /-- Whether a program matches some part of a text. -/
  isMatch : Program → String → Bool

/-- The kinds of patterns. -/
inductive PatternKind where
  | exact
  | glob
  | regex
  deriving Repr, DecidableEq

/-- The name of a kind. -/
def PatternKind.name : PatternKind → String
  | .exact => "exact"
  | .glob => "glob"
  | .regex => "regex"

/-- A pattern for the names of topics. -/
inductive TopicPattern (Program : Type) where
  | exact (topic : String) (caseSensitive : Bool)
  | glob (pieces : List Glob.Piece) (caseSensitive : Bool)
  | regex (program : Program)
  deriving Repr, DecidableEq

namespace TopicPattern

/-- The kind and the body of a pattern: what is written in front decides, else the default. -/
def split (fallback : PatternKind) (raw : String) : PatternKind × String :=
  match Text.dropPrefix? raw "glob:", Text.dropPrefix? raw "regex:",
      Text.dropPrefix? raw "exact:" with
  | some body, _, _ => (.glob, body)
  | none, some body, _ => (.regex, body)
  | none, none, some body => (.exact, body)
  | none, none, none => (fallback, raw)

/-- The text of a regular expression for whole names, made from one for parts of names. -/
def anchored (body : String) : String := "^(?:" ++ body ++ ")$"

/-- The pattern that a text describes. -/
def parse (E : Regex.Engine) (raw : String) (fallback : PatternKind) (caseSensitive : Bool) :
    Except ConfigurationError (TopicPattern E.Program) :=
  match split fallback raw with
  | (.exact, body) => .ok (.exact body caseSensitive)
  | (.glob, body) =>
      match Glob.parse body with
      | .ok pieces => .ok (.glob pieces caseSensitive)
      | .error e => .error (.invalidPattern raw (.glob e))
  | (.regex, body) =>
      match E.build (!caseSensitive) (anchored body) with
      | .ok program => .ok (.regex program)
      | .error reason => .error (.invalidPattern raw (.regex reason))

/-- The kind of a pattern. -/
def kind {Program : Type} : TopicPattern Program → PatternKind
  | .exact .. => .exact
  | .glob .. => .glob
  | .regex .. => .regex

/-- Whether a pattern admits a topic. -/
def isMatch (E : Regex.Engine) : TopicPattern E.Program → String → Bool
  | .exact name true, topic => name == topic
  | .exact name false, topic => name.toList.map Char.toLower == topic.toList.map Char.toLower
  | .glob pieces caseSensitive, topic => Glob.isMatch caseSensitive pieces topic
  | .regex program, topic => E.isMatch program topic

end TopicPattern

end Redelivery
