import Redelivery.ConfigurationError
import Redelivery.Failure
import Redelivery.Text.NameSet

/-!
# Chain — Routing

Rules that send failures of some kinds to a dead-letter stage of their own.  No kind belongs to
two rules, so the order of the rules does not matter to the choice.
-/

namespace Redelivery

/-- Failures of these kinds go to the dead-letter stage with this suffix in front. -/
structure RoutingRule where
  suffix : String
  kinds : NameSet
  deriving Repr, DecidableEq

/-- Rules in order. -/
structure Routing where
  rules : List RoutingRule
  deriving Repr, DecidableEq

namespace Routing

/-- No rules. -/
def empty : Routing := ⟨[]⟩

/-- The first kind that two rules share, with the suffixes of both. -/
def overlap? (a b : RoutingRule) : Option (String × String × String) :=
  (a.kinds.names.find? b.kinds.contains).map fun kind => (kind, a.suffix, b.suffix)

/-- The first kind that a rule shares with a later one, with the suffixes of both. -/
def firstOverlap : List RoutingRule → Option (String × String × String)
  | [] => none
  | r :: rs =>
      match rs.findSome? (overlap? r) with
      | some found => some found
      | none => firstOverlap rs

/-- The rules, provided that no kind is in two of them. -/
def ofList (rules : List RoutingRule) : Except ConfigurationError Routing :=
  match firstOverlap rules with
  | some (kind, first, second) => .error (.overlappingRouting kind first second)
  | none => .ok ⟨rules⟩

/-- The suffix of the rule for a kind. -/
def suffixOf? (r : Routing) (kind : String) : Option String :=
  (r.rules.find? (·.kinds.contains kind)).map RoutingRule.suffix

/-- The suffix for the first level of a failure that a rule names. -/
def suffixFor? (r : Routing) (f : Failure) (traverse : Bool) : Option String :=
  (f.inspected traverse).findSome? r.suffixOf?

end Routing

end Redelivery
