import Redelivery.Settings.Source
import Redelivery.Yaml.Node
import Redelivery.Yaml.Plain

/-!
# Settings — Document

Settings as one document.  Its values are taken strictly: a text is no number, and a number with a
point no integer, but every plain or quoted text will do as a text.  Where nothing is written, a
list is empty and an optional value is not there.
-/

namespace Redelivery

namespace Yaml.Node

/-- What a node without parts means; a tag of one document has no meaning here. -/
def datum? : Node → Option Datum
  | .scalar true s => some (plainDatum s)
  | .scalar false s => some (.text s)
  | .tagged tag (.scalar _ s) => (coreName? tag).bind fun name => taggedDatum? name s
  | _ => none

/-- The text of a node without parts. -/
def text? (n : Node) : Option String :=
  match n.bare with
  | .scalar _ s => some s
  | _ => none

/-- What a plain text is, looked at in some way. -/
def plain? {α : Type} (look : String → Option α) (n : Node) : Option α :=
  match n.bare with
  | .scalar true s => look s
  | _ => none

/-- The items of a list. -/
def items? (n : Node) : Option (List Node) :=
  match n.bare with
  | .list items => some items
  | .scalar true "" => some []
  | _ => none

/-- The entries of a map whose keys are texts. -/
def entries? (n : Node) : Option (List (String × Node)) :=
  match n.bare with
  | .map entries => entries.mapM fun (k, v) => k.text?.map fun s => (s, v)
  | _ => none

/-- Whether a node writes nothing. -/
def isAbsent : Node → Bool
  | .scalar true s => s.isEmpty || isNull s
  | .tagged "!!null" (.scalar true s) => isNull s
  | _ => false

/-- The name of a choice: a text, or the tag of a node that writes nothing. -/
def choice? : Node → Option String
  | .tagged tag n =>
      match localName? tag with
      | some name => if n.isAbsent then some name else none
      | none => n.text?
  | n => n.text?

/-- The parts of a value that is told by a name; keys that are no texts name nothing. -/
def tagged? : Node → Option Tagged
  | .map entries => some (.named (entries.filterMap fun (k, v) =>
      (k.datum?.bind Datum.text?).map fun s => (s, v.datum?)))
  | .list items => some (.ordered (items.map datum?))
  | .tagged tag (.map entries) => if (localName? tag).isSome then none else tagged? (.map entries)
  | .tagged tag (.list items) => if (localName? tag).isSome then none else tagged? (.list items)
  | _ => none

instance : Source Node where
  text? := text?
  bool? := plain? bool?
  nat? bits := plain? fun s => (nat? s).filter (· < Nat.pow 2 bits)
  int? bits := plain? fun s =>
    (int? s).filter fun i =>
      -(Nat.pow 2 (bits - 1) : Int) ≤ i && i < (Nat.pow 2 (bits - 1) : Int)
  items? := items?
  entries? := entries?
  isAbsent := isAbsent
  choice? := choice?
  tagged? := tagged?

end Yaml.Node

/-- The settings that a text writes down; a text without a document leaves everything out. -/
def Settings.ofText (text : String) : Except SettingsFlaw Settings := do
  match ← (Yaml.read text).mapError SettingsFlaw.document with
  | some n => ofSource n
  | none => return {}

end Redelivery
