/-!
# Number — Time

Lengths of time and readings of a wall clock, in whole milliseconds.  A length is a 64-bit word
(`Millis`), a reading a signed one (`Instant`), and no sum ever wraps: it stops at the last
value of its type.  The main statements say so in the integers, where every later argument about
delays takes place (`Millis.toNat_add`, `Instant.toInt_after`, `Instant.toInt_since`).
-/

namespace Redelivery

/-- A length of time in milliseconds. -/
abbrev Millis := UInt64

/-- A reading of the wall clock in milliseconds since the epoch. -/
abbrev Instant := Int64

namespace Millis

/-- The sum of two lengths, or the longest length there is when the sum exceeds it. -/
def add (a b : Millis) : Millis := UInt64.ofNatClamp (a.toNat + b.toNat)

/-- The length as a difference of two clock readings: the longest such difference when the
length exceeds it. -/
def toSpan (d : Millis) : Int := min (d.toNat : Int) Int64.maxValue.toInt

theorem toNat_add (a b : Millis) : (add a b).toNat = min (a.toNat + b.toNat) (UInt64.size - 1) := by
  unfold add UInt64.ofNatClamp
  split
  · rename_i h
    rw [UInt64.toNat_ofNatLT]
    simp only [UInt64.size] at h ⊢
    omega
  · rename_i h
    rw [UInt64.toNat_ofNatLT]
    simp only [UInt64.size] at *
    omega

end Millis

/-- The integer `i` as a clock reading: the nearest reading when `i` is none. -/
def Instant.nearest (i : Int) : Instant := Int64.ofIntClamp i

theorem Instant.toInt_nearest (i : Int) :
    (nearest i).toInt = max Int64.minValue.toInt (min i Int64.maxValue.toInt) := by
  unfold nearest Int64.ofIntClamp
  split
  · split
    · rename_i hl hr
      rw [Int64.toInt_ofIntLE]
      simp only [Int64.toInt_minValue, Int64.toInt_maxValue] at hl hr ⊢
      omega
    · rename_i hl hr
      simp only [Int64.toInt_minValue, Int64.toInt_maxValue] at hl hr ⊢
      omega
  · rename_i hl
    simp only [Int64.toInt_minValue, Int64.toInt_maxValue] at hl ⊢
    omega

namespace Instant

/-- The reading `d` after `t`, or the last reading there is. -/
def after (t : Instant) (d : Millis) : Instant := nearest (t.toInt + d.toSpan)

/-- The time from `first` to `now`, negative when the clock went back, kept within the range of
readings. -/
def since (now first : Instant) : Instant := nearest (now.toInt - first.toInt)

theorem toInt_after (t : Instant) (d : Millis) :
    (t.after d).toInt =
      min (t.toInt + min (d.toNat : Int) Int64.maxValue.toInt) Int64.maxValue.toInt := by
  have := Int64.le_toInt t
  simp only [after, toInt_nearest, Millis.toSpan, Int64.toInt_minValue, Int64.toInt_maxValue]
  omega

theorem toInt_since (now first : Instant) :
    (now.since first).toInt =
      max Int64.minValue.toInt (min (now.toInt - first.toInt) Int64.maxValue.toInt) := by
  simp only [since, toInt_nearest]

end Instant

/-- One more than a count of attempts, or the largest count there is. -/
def nextCount (n : UInt32) : UInt32 := UInt32.ofNatClamp (n.toNat + 1)

theorem toNat_ofNatClamp (n : Nat) :
    (UInt32.ofNatClamp n).toNat = min n (UInt32.size - 1) := by
  unfold UInt32.ofNatClamp
  split
  · rename_i h
    rw [UInt32.toNat_ofNatLT]
    simp only [UInt32.size] at h ⊢
    omega
  · rename_i h
    rw [UInt32.toNat_ofNatLT]
    simp only [UInt32.size] at *
    omega

/-- A number is below a word just if the nearest word is. -/
theorem ofNatClamp_lt_iff {n : Nat} {w : UInt32} : UInt32.ofNatClamp n < w ↔ n < w.toNat := by
  have hlt := w.toNat_lt_size
  rw [UInt32.lt_iff_toNat_lt, toNat_ofNatClamp]
  omega

theorem toNat_nextCount (n : UInt32) :
    (nextCount n).toNat = min (n.toNat + 1) (UInt32.size - 1) :=
  toNat_ofNatClamp _

end Redelivery
