/-!
# Datum

Values without parts, as configuration files and the environment write them.
-/

namespace Redelivery

/-- A value without parts. -/
inductive Datum where
  | null
  | bool (b : Bool)
  | int (i : Int)
  | float (x : Float)
  | text (s : String)
  deriving Repr, Inhabited

/-- A value that is told from others by a name: parts under names, among them its own, or its own
name followed by parts in order.  A part that is no datum is `none`. -/
inductive Tagged where
  | named (parts : List (String × Option Datum))
  | ordered (parts : List (Option Datum))

namespace Datum

/-- The natural number of 64 bits. -/
def nat64? : Datum → Option Nat
  | .int i => if 0 ≤ i ∧ i < UInt64.size then some i.toNat else none
  | _ => none

/-- The number as a double; an integer has to fit into 64 bits. -/
def float? : Datum → Option Float
  | .float x => some x
  | .int i =>
      if 0 ≤ i ∧ i < UInt64.size then some (UInt64.ofNat i.toNat).toFloat
      else if Int64.minValue.toInt ≤ i ∧ i < 0 then some (Int64.ofInt i).toFloat
      else none
  | _ => none

/-- The text. -/
def text? : Datum → Option String
  | .text s => some s
  | _ => none

end Datum

end Redelivery
