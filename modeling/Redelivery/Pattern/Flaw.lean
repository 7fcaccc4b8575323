import Redelivery.Pattern.Glob

/-!
# Pattern — Flaw

Why the text of a topic pattern is refused.
-/

namespace Redelivery

/-- Why a pattern is refused. -/
inductive PatternFlaw where
  | glob (e : Glob.Error)
  /-- The reason that an engine gives for refusing a regular expression. -/
  | regex (reason : String)
  /-- A reason in words. -/
  | because (reason : String)
  deriving Repr, DecidableEq

/-- The text of a flaw. -/
def PatternFlaw.message : PatternFlaw → String
  | .glob e => e.message
  | .regex reason | .because reason => reason

end Redelivery
