import Redelivery.Failure
import Redelivery.Text.NameSet

/-!
# Classifier

Whether a failure is worth another attempt.  Each level that is looked at (the outermost one, or
all of them if causes are traversed) is held against three lists: a kind that is fatal for every
chain or excluded by this one ends the matter, a kind on the include list allows another attempt,
and any other kind leaves the decision to the next level.  If no level decides, a list of
inclusions that is not empty admits nothing else, and an empty one leaves the failure
unconfigured, which counts as worth another attempt.
-/

namespace Redelivery

/-- What a classifier says of a failure. -/
inductive Classification where
  /-- Another attempt is wanted. -/
  | retry
  /-- No attempt can help. -/
  | fatal
  /-- No list mentions the failure. -/
  | notConfigured
  deriving Repr, DecidableEq

/-- Whether another attempt is made. -/
def Classification.isRetryable : Classification → Bool
  | .fatal => false
  | _ => true

/-- The name of a classification. -/
def Classification.name : Classification → String
  | .retry => "retry"
  | .fatal => "fatal"
  | .notConfigured => "not_configured"

namespace FatalKinds

/-- The kind of a record that lacks the headers of its retry state. -/
def missingRetryHeaders : String := "MissingRetryHeaders"

/-- The kinds that no attempt can help unless a configuration says otherwise. -/
def standard : NameSet := NameSet.ofList
  ["DeserializationError", "MessageConversionError", "ConversionError",
    "MethodArgumentResolutionError", "NoSuchMethodError", "ClassCastError", missingRetryHeaders]

end FatalKinds

/-- The three lists of a chain, and whether the causes of a failure are looked at. -/
structure Classifier where
  fatal : NameSet := FatalKinds.standard
  included : NameSet := .empty
  excluded : NameSet := .empty
  traverse : Bool := false
  deriving Repr, DecidableEq

namespace Classifier

/-- What the lists say of one kind, if they mention it. -/
def verdict? (c : Classifier) (kind : String) : Option Classification :=
  if c.fatal.contains kind || c.excluded.contains kind then some .fatal
  else if c.included.contains kind then some .retry
  else none

/-- The answer when no kind was mentioned. -/
def fallback (c : Classifier) : Classification :=
  if c.included.isEmpty then .notConfigured else .fatal

/-- What the classifier says of a failure under the given choice of levels. -/
def classifyWith (c : Classifier) (traverse : Bool) (f : Failure) : Classification :=
  ((f.inspected traverse).findSome? c.verdict?).getD c.fallback

/-- What the classifier says of a failure. -/
def classify (c : Classifier) (f : Failure) : Classification := c.classifyWith c.traverse f

end Classifier

end Redelivery
