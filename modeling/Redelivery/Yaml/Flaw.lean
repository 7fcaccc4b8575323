/-!
# Yaml — Flaw

Why a text is no document.
-/

namespace Redelivery.Yaml

/-- Why a text is no document. -/
inductive Flaw where
  /-- A character that no document holds. -/
  | forbiddenCharacter
  /-- A character with which nothing begins. -/
  | strayCharacter
  /-- A tab where blanks say how deep a line is. -/
  | tabInIndentation
  | unclosedQuote
  | badEscape
  | badBlockHeader
  /-- A colon next to a sign of a flow collection. -/
  | strayColon
  | badName
  | badTag
  | badDirective
  /-- The first text of a line that has to be a key but is not followed by a colon. -/
  | keyWithoutValue
  /-- A dash, a question mark or a colon where no entry, key or value can stand. -/
  | misplacedMark
  | unexpectedToken
  | unknownAlias (name : String)
  | severalDocuments
  deriving Repr, DecidableEq

/-- The text of a flaw. -/
def Flaw.message : Flaw → String
  | .forbiddenCharacter => "control characters are not allowed"
  | .strayCharacter => "found a character that cannot start any token"
  | .tabInIndentation => "found a tab where an indentation is expected"
  | .unclosedQuote => "found an unclosed quote"
  | .badEscape => "found an unknown escape"
  | .badBlockHeader => "found an unknown block indicator"
  | .strayColon => "found an unexpected colon"
  | .badName => "found a bad name of an anchor"
  | .badTag => "found a bad tag"
  | .badDirective => "found a bad directive"
  | .keyWithoutValue => "could not find an expected colon"
  | .misplacedMark => "found an entry, a key or a value that is not allowed here"
  | .unexpectedToken => "found something else than expected"
  | .unknownAlias name => "unknown anchor " ++ name
  | .severalDocuments => "found more than one document"

end Redelivery.Yaml
