/-!
# Number — Shortest

The decimal text of a double.  A finite double is `m · 2 ^ q`; the reals that round to it form an
interval around it whose ends belong to it exactly if `m` is even.  Among the decimals in that
interval the one with the fewest digits is written, and of those the nearest to the double.

For one digit, two digits and so on, `digits` tests the two neighbours of the value on the grid
of decimals with that many digits; if any point of a grid lies in the interval, one of these two
does.  All of it is exact arithmetic on natural numbers.  What surrounds the digits is in
`Layout`: where positional writing ends, and that a whole number keeps a `.0`.
-/

namespace Redelivery.Shortest

/-- The value `mantissa · 2 ^ exponent`.  `narrow` says that the double below it is only half as
far away as the one above. -/
structure Binary where
  mantissa : Nat
  exponent : Int
  narrow : Bool
  deriving Repr, DecidableEq

/-- The value `digits · 10 ^ exponent`. -/
structure Decimal where
  digits : Nat
  exponent : Int
  deriving Repr, DecidableEq

/-- The same value with up to `n` zeros at the end of the digits moved into the exponent. -/
def Decimal.strip (d : Decimal) : Nat → Decimal
  | 0 => d
  | n + 1 =>
      if d.digits ≠ 0 ∧ d.digits % 10 = 0 then strip ⟨d.digits / 10, d.exponent + 1⟩ n else d

/-- The magnitude of a finite double. -/
def Binary.ofBits (bits : UInt64) : Binary :=
  let fraction := (bits &&& 0xFFFFFFFFFFFFF).toNat
  let scale := ((bits >>> 52) &&& 0x7FF).toNat
  if scale = 0 then ⟨fraction, -1074, false⟩
  else ⟨fraction + Nat.pow 2 52, (scale : Int) - 1075, fraction = 0 && 1 < scale⟩

/-- Numerator and denominator of `n · b ^ e`. -/
def ratio (n b : Nat) (e : Int) : Nat × Nat :=
  if 0 ≤ e then (n * b.pow e.toNat, 1) else (n, b.pow (-e).toNat)

/-- Whether the first fraction is at most the second, or below it if `strict`. -/
def isBelow (strict : Bool) (x y : Nat × Nat) : Bool :=
  if strict then x.1 * y.2 < y.1 * x.2 else x.1 * y.2 ≤ y.1 * x.2

/-- The distance of two fractions. -/
def distance (x y : Nat × Nat) : Nat × Nat :=
  let a := x.1 * y.2
  let b := y.1 * x.2
  (max a b - min a b, x.2 * y.2)

namespace Binary

/-- Whether a decimal rounds to `v`.  In quarters of the last binary place the interval reaches
two up, and two down or one when `v` is `narrow`. -/
def admits (v : Binary) (d : Decimal) : Bool :=
  let strict := v.mantissa % 2 = 1
  let low := ratio (4 * v.mantissa - if v.narrow then 1 else 2) 2 (v.exponent - 2)
  let high := ratio (4 * v.mantissa + 2) 2 (v.exponent - 2)
  let x := ratio d.digits 10 d.exponent
  isBelow strict low x && isBelow strict x high

/-- The nearest decimal that rounds to `v` among the two neighbours of `v` on the grid of step
`10 ^ step`, if there is one. -/
def onGrid (v : Binary) (step : Int) : Option Decimal :=
  let x := ratio v.mantissa 2 v.exponent
  let unit := ratio 1 10 step
  let below : Decimal := ⟨(x.1 * unit.2) / (x.2 * unit.1), step⟩
  let above : Decimal := ⟨below.digits + 1, step⟩
  let gap (d : Decimal) := distance (ratio d.digits 10 step) x
  match v.admits below && below.digits ≠ 0, v.admits above with
  | true, true =>
      if isBelow false (gap below) (gap above) then
        if isBelow false (gap above) (gap below) && below.digits % 2 = 1 then some above
        else some below
      else some above
  | true, false => some below
  | false, true => some above
  | false, false => none

/-- The number `k` with `10 ^ (k - 1) ≤ v < 10 ^ k`, for `v` other than zero: an estimate from
the length of the mantissa in bits, put right by at most two steps. -/
def magnitude (v : Binary) : Int :=
  let x := ratio v.mantissa 2 v.exponent
  let guess : Int := ((v.mantissa.log2 : Int) + v.exponent) * 30103 / 100000
  let fits (k : Int) := isBelow true x (ratio 1 10 k)
  if fits (guess - 1) then guess - 1
  else if fits guess then guess
  else if fits (guess + 1) then guess + 1
  else guess + 2

/-- The first grid with a hit, from `n` digits on. -/
def search (v : Binary) (k : Int) : Nat → Nat → Decimal
  | 0, _ => ⟨v.mantissa, 0⟩
  | fuel + 1, n => (v.onGrid (k - n)).getD (search v k fuel (n + 1))

/-- The decimal with the fewest digits that rounds to `v`; seventeen always suffice. -/
def shortest (v : Binary) : Decimal :=
  if v.mantissa = 0 then ⟨0, 0⟩ else (v.search v.magnitude 17 1).strip 17

end Binary

/-- How a decimal is laid out in text. -/
structure Layout where
  /-- Values of at least `10 ^ positionalFrom` and below `10 ^ positionalUpTo` are written
  positionally. -/
  positionalFrom : Int
  positionalUpTo : Int
  /-- Written after a whole number in positional form. -/
  whole : String

/-- Positional from `1e-4` up to `1e16`, a whole number with `.0`. -/
def plain : Layout := ⟨-4, 16, ".0"⟩

/-- The text of a decimal other than zero. -/
def Layout.text (layout : Layout) (d : Decimal) : String :=
  let ds := Nat.toDigits 10 d.digits
  let point : Int := ds.length + d.exponent
  if layout.positionalFrom < point && point ≤ layout.positionalUpTo then
    if d.exponent ≥ 0 then
      String.ofList (ds ++ List.replicate d.exponent.toNat '0') ++ layout.whole
    else if point ≤ 0 then
      String.ofList ('0' :: '.' :: List.replicate (-point).toNat '0' ++ ds)
    else
      String.ofList (ds.take point.toNat ++ '.' :: ds.drop point.toNat)
  else
    let tail := ds.drop 1
    let fraction := if tail.isEmpty then [] else '.' :: tail
    String.ofList (ds.take 1 ++ fraction) ++ "e" ++ toString (point - 1)

/-- Positional whatever the size, a whole number without a point. -/
def positional : Layout := ⟨-400, 400, ""⟩

/-- The text of a double in a layout. -/
def Layout.write (layout : Layout) (x : Float) : String :=
  if x.isNaN then "NaN"
  else
    let bits := x.toBits
    let sign := if bits >>> 63 = 1 then "-" else ""
    if x.isInf then sign ++ "inf"
    else
      let v := Binary.ofBits bits
      if v.mantissa = 0 then sign ++ "0" ++ layout.whole else sign ++ layout.text v.shortest

/-- The text of a double. -/
def text (x : Float) : String := plain.write x

end Redelivery.Shortest
