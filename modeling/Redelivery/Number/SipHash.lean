/-!
# Number — SipHash

A hash of byte strings that spreads keys evenly: SipHash with one round for each word, three
rounds at the end and the key zero.  Words are read with the lowest byte first; the last one
holds the bytes that are left and, in its highest byte, the number of all bytes.
-/

namespace Redelivery.SipHash

/-- The four words of the state. -/
structure State where
  v0 : UInt64
  v1 : UInt64
  v2 : UInt64
  v3 : UInt64

/-- The state before the first word. -/
def start : State where
  v0 := 0x736f6d6570736575
  v1 := 0x646f72616e646f6d
  v2 := 0x6c7967656e657261
  v3 := 0x7465646279746573

/-- A word rotated to the left by `n` bits, where `0 < n < 64`. -/
def rotate (x n : UInt64) : UInt64 := (x <<< n) ||| (x >>> (64 - n))

/-- One round. -/
def State.round (s : State) : State :=
  let v0 := s.v0 + s.v1
  let v1 := rotate s.v1 13 ^^^ v0
  let v0 := rotate v0 32
  let v2 := s.v2 + s.v3
  let v3 := rotate s.v3 16 ^^^ v2
  let v0 := v0 + v3
  let v3 := rotate v3 21 ^^^ v0
  let v2 := v2 + v1
  let v1 := rotate v1 17 ^^^ v2
  let v2 := rotate v2 32
  ⟨v0, v1, v2, v3⟩

/-- The state after a word. -/
def State.absorb (s : State) (word : UInt64) : State :=
  let s := { s with v3 := s.v3 ^^^ word }.round
  { s with v0 := s.v0 ^^^ word }

/-- The hash that a state ends in. -/
def State.finish (s : State) : UInt64 :=
  let s := { s with v2 := s.v2 ^^^ 0xff }.round.round.round
  s.v0 ^^^ s.v1 ^^^ s.v2 ^^^ s.v3

/-- The word of at most eight bytes, the lowest first. -/
def word (bytes : List UInt8) : UInt64 :=
  bytes.foldr (fun b w => (w <<< 8) ||| b.toUInt64) 0

/-- The hash of the bytes to come, where `size` is the number of all bytes. -/
def hashFrom (size : UInt64) : State → List UInt8 → UInt64
  | s, a :: b :: c :: d :: e :: f :: g :: h :: rest =>
      hashFrom size (s.absorb (word [a, b, c, d, e, f, g, h])) rest
  | s, rest => (s.absorb (word rest ||| (size <<< 56))).finish

/-- The hash of a byte string. -/
def hash (bytes : List UInt8) : UInt64 :=
  hashFrom (UInt64.ofNat bytes.length) start bytes

/-- The eight bytes of a word, the lowest first. -/
def wordBytes (w : UInt64) : List UInt8 :=
  (List.range 8).map fun i => (w >>> (UInt64.ofNat (8 * i))).toUInt8

end Redelivery.SipHash
