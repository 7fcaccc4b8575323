/-!
# Number — Scientific

Doubles in text: digits with at most one point among them, at least one digit, an optional sign,
and an optional power of ten.  The double is the one nearest to the number.
-/

namespace Redelivery.Scientific

/-- The parts of a number: its digits, how many of them follow the point, and the power of ten. -/
structure Parts where
  digits : List Char
  places : Nat
  exponent : Int

/-- The power of ten that follows the digits, if nothing else does. -/
def exponent? : List Char → Option Int
  | [] => some 0
  | e :: cs =>
      if e ≠ 'e' ∧ e ≠ 'E' then none
      else
        let (isNegative, ds) := match cs with
          | '-' :: ds => (true, ds)
          | '+' :: ds => (false, ds)
          | ds => (false, ds)
        if ds.isEmpty || !ds.all Char.isDigit then none
        else
          let n : Int := Nat.ofDigitChars 10 ds 0
          some (if isNegative then -n else n)

/-- The parts of a number without a sign. -/
def parts? (cs : List Char) : Option Parts :=
  let whole := cs.takeWhile Char.isDigit
  let (fraction, rest) := match cs.dropWhile Char.isDigit with
    | '.' :: more => (more.takeWhile Char.isDigit, more.dropWhile Char.isDigit)
    | rest => ([], rest)
  if whole.isEmpty && fraction.isEmpty then none
  else (exponent? rest).map fun e => ⟨whole ++ fraction, fraction.length, e⟩

/-- Beyond this power of ten every double is infinite, and below its opposite zero. -/
def farthest : Int := 400

/-- The double nearest to a number. -/
def Parts.toFloat (p : Parts) : Float :=
  let mantissa := Nat.ofDigitChars 10 p.digits 0
  let scale := p.exponent - p.places
  let size := scale + (Nat.toDigits 10 mantissa).length
  if mantissa = 0 || size < -farthest then 0.0
  else if farthest < size then 1.0 / 0.0
  else if 0 ≤ scale then Float.ofScientific mantissa false scale.toNat
  else Float.ofScientific mantissa true (-scale).toNat

/-- The sign in front of a text, and what follows it. -/
def splitSign : List Char → Bool × List Char
  | '-' :: cs => (true, cs)
  | '+' :: cs => (false, cs)
  | cs => (false, cs)

/-- The double that digits describe. -/
def read? (s : String) : Option Float :=
  let (isNegative, cs) := splitSign s.toList
  (parts? cs).map fun p => if isNegative then -p.toFloat else p.toFloat

/-- The double that digits or a word describe. -/
def readOrWord? (s : String) : Option Float :=
  let (isNegative, cs) := splitSign s.toList
  match String.ofList (cs.map Char.toLower) with
  | "inf" | "infinity" => some (if isNegative then -1.0 / 0.0 else 1.0 / 0.0)
  | "nan" => some (0.0 / 0.0)
  | _ => read? s

end Redelivery.Scientific
