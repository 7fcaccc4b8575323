import Redelivery.Pattern.Regex.Engine

/-!
# Scope

Which topics a configuration governs: those that some pattern of one list admits (all of them if
that list is empty) and no pattern of another.
-/

namespace Redelivery

/-- The patterns of the topics that are in and of those that are out. -/
structure Scope where
  allowed : List (TopicPattern Regex.Expr) := []
  denied : List (TopicPattern Regex.Expr) := []
  deriving Repr, DecidableEq

namespace Scope

/-- All topics. -/
def all : Scope := {}

/-- The scope that two lists of texts describe; the first text that is no pattern is reported,
and those of the first list come first. -/
def ofTexts (allowed denied : List String) (kind : PatternKind) (caseSensitive : Bool) :
    Except ConfigurationError Scope := do
  let compile := fun raw => TopicPattern.parse Regex.engine raw kind caseSensitive
  let allowed ← allowed.mapM compile
  let denied ← denied.mapM compile
  return { allowed, denied }

/-- Whether a topic is in. -/
def admits (s : Scope) (topic : String) : Bool :=
  let covers (p : TopicPattern Regex.Expr) := p.isMatch Regex.engine topic
  (s.allowed.isEmpty || s.allowed.any covers) && !s.denied.any covers

/-- Whether all of the topics are in. -/
def admitsAll (s : Scope) (topics : List String) : Bool := topics.all s.admits

end Scope

end Redelivery
