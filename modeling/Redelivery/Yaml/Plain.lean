import Redelivery.Datum
import Redelivery.Number.Scientific

/-!
# Yaml — Plain

What plain texts mean: nothing, a truth value, a number, or else just their text.  Integers may be
written in base two, eight, ten or sixteen; digits after a leading zero make a text, not a number.
-/

namespace Redelivery.Yaml

/-- The value of digits in a base. -/
def digitsIn? (base : Nat) (cs : List Char) : Option Nat :=
  let digit? (c : Char) : Option Nat :=
    let n := if c.isDigit then some (c.toNat - '0'.toNat)
      else if 'a' ≤ c && c ≤ 'f' then some (c.toNat - 'a'.toNat + 10)
      else if 'A' ≤ c && c ≤ 'F' then some (c.toNat - 'A'.toNat + 10)
      else none
    n.filter (· < base)
  if cs.isEmpty then none
  else (cs.mapM digit?).map fun ds => ds.foldl (fun acc d => acc * base + d) 0

/-- Whether a text without a sign is a zero with more digits after it. -/
def hasLeadingZero (cs : List Char) : Bool :=
  match cs with
  | '0' :: rest => !rest.isEmpty && rest.all Char.isDigit
  | _ => false

/-- The value of an integer without a sign. -/
def magnitude? (cs : List Char) : Option Nat :=
  match cs with
  | '0' :: 'x' :: ds => digitsIn? 16 ds
  | '0' :: 'o' :: ds => digitsIn? 8 ds
  | '0' :: 'b' :: ds => digitsIn? 2 ds
  | cs => if hasLeadingZero cs then none else digitsIn? 10 cs

/-- The integer that a text writes, and whether it has a minus sign. -/
def integer? (s : String) : Option (Bool × Nat) :=
  match s.toList with
  | '+' :: cs => (magnitude? cs).map fun n => (false, n)
  | '-' :: cs => (magnitude? cs).map fun n => (true, n)
  | cs => (magnitude? cs).map fun n => (false, n)

/-- The natural number that a text writes; a minus sign writes none. -/
def nat? (s : String) : Option Nat :=
  match integer? s with
  | some (false, n) => some n
  | _ => none

/-- The integer that a text writes. -/
def int? (s : String) : Option Int :=
  (integer? s).map fun (isNegative, n) => if isNegative then -(n : Int) else n

/-- Whether a text means nothing. -/
def isNull (s : String) : Bool := ["null", "Null", "NULL", "~"].contains s

/-- The truth value that a text means. -/
def bool? (s : String) : Option Bool :=
  if ["true", "True", "TRUE"].contains s then some true
  else if ["false", "False", "FALSE"].contains s then some false
  else none

/-- The double that a text means: digits, or a word after a point. -/
def float? (s : String) : Option Float :=
  if [".inf", ".Inf", ".INF", "+.inf", "+.Inf", "+.INF"].contains s then some (1.0 / 0.0)
  else if ["-.inf", "-.Inf", "-.INF"].contains s then some (-1.0 / 0.0)
  else if [".nan", ".NaN", ".NAN"].contains s then some (0.0 / 0.0)
  else if hasLeadingZero (Scientific.splitSign s.toList).2 then none
  else (Scientific.read? s).filter Float.isFinite

/-- What a plain text means.  Integers of more than 128 bits count as doubles. -/
def plainDatum (s : String) : Datum :=
  if s.isEmpty || isNull s then .null
  else
    match bool? s, int? s, float? s with
    | some b, _, _ => .bool b
    | none, some i, x =>
        if -(Nat.pow 2 127 : Int) ≤ i ∧ i < (Nat.pow 2 128 : Int) then .int i
        else (x.map Datum.float).getD (.text s)
    | none, none, some x => .float x
    | none, none, none => .text s

/-- What a text means under a tag that every document knows; there may be no such meaning. -/
def taggedDatum? (name : String) (s : String) : Option Datum :=
  match name with
  | "bool" => (bool? s).map .bool
  | "int" => (int? s).map .int
  | "float" => (float? s).map .float
  | "null" => if isNull s then some .null else none
  | _ => some (.text s)

end Redelivery.Yaml
