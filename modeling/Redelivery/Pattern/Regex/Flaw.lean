/-!
# Pattern — Regex — Flaw

What can be wrong with the text of a regular expression.
-/

namespace Redelivery.Regex

/-- Why a text is no regular expression. -/
inductive Flaw where
  | openGroup
  | strayParenthesis
  | lookAround
  | groupName
  | groupFlags
  | nothingToRepeat
  | repetitionCount
  | openClass
  | classRange
  | classMember
  | escape
  | backreference
  | codePoint
  | property
  | wordBoundary
  /-- Something that would match a part of a character. -/
  | notText
  | tooDeep
  | tooLarge
  deriving Repr, DecidableEq

/-- The text of a flaw. -/
def Flaw.message : Flaw → String
  | .openGroup => "a group is not closed"
  | .strayParenthesis => "a closing parenthesis stands alone"
  | .lookAround => "looking ahead or behind is not supported"
  | .groupName => "a group has no valid name of its own"
  | .groupFlags => "a group has invalid flags"
  | .nothingToRepeat => "a repetition has nothing to repeat"
  | .repetitionCount => "a repetition has invalid bounds"
  | .openClass => "a character class is not closed"
  | .classRange => "a range of characters is invalid"
  | .classMember => "a character class contains something else than characters"
  | .escape => "an escape is invalid"
  | .backreference => "backreferences are not supported"
  | .codePoint => "a number is not that of a character"
  | .property => "a property of characters is not known"
  | .wordBoundary => "a word boundary is invalid"
  | .notText => "a part of a character would match"
  | .tooDeep => "groups are nested too deeply"
  | .tooLarge => "the expression is too large"

end Redelivery.Regex
