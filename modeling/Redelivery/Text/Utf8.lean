/-!
# Text — Utf8

Bytes that should be text.  `decode?` reads them if they are valid UTF-8; `decodeLossy` reads
any bytes and puts U+FFFD for each maximal part that cannot begin a character.  A part is
maximal in the sense of the Unicode Standard: it ends before the first byte that no valid
sequence could have there.
-/

namespace Redelivery

/-- A string of bytes: a key, a payload or the value of a header. -/
abbrev Bytes := ByteArray

instance : DecidableEq Bytes := ByteArray.instDecidableEq

namespace Utf8

/-- The bytes of a text. -/
def encode (s : String) : Bytes := s.toUTF8

/-- The text that the bytes encode, if they are valid. -/
def decode? (b : Bytes) : Option String := String.fromUTF8? b

@[simp] theorem decode?_encode (s : String) : decode? (encode s) = some s := by
  simp [decode?, encode, String.fromUTF8?, String.toUTF8_eq_toByteArray, s.isValidUTF8,
    String.fromUTF8]

/-- What a byte can start: the bits it gives, how many bytes follow, and the range of the
first of them. -/
def lead? (b : Nat) : Option (Nat × Nat × Nat × Nat) :=
  if b < 0x80 then some (b, 0, 0x80, 0xBF)
  else if b < 0xC2 then none
  else if b < 0xE0 then some (b - 0xC0, 1, 0x80, 0xBF)
  else if b = 0xE0 then some (0, 2, 0xA0, 0xBF)
  else if b = 0xED then some (0xD, 2, 0x80, 0x9F)
  else if b < 0xF0 then some (b - 0xE0, 2, 0x80, 0xBF)
  else if b = 0xF0 then some (0, 3, 0x90, 0xBF)
  else if b < 0xF4 then some (b - 0xF0, 3, 0x80, 0xBF)
  else if b = 0xF4 then some (4, 3, 0x80, 0x8F)
  else none

/-- The rest of a character of which `value` is known and `more` bytes are missing, the first of
them between `low` and `high`: the character, if the bytes go on so, and how many of them belong
to it or to the broken start of one. -/
def follow (value : Nat) : Nat → Nat → Nat → List UInt8 → Option Char × Nat
  | 0, _, _, _ => (some (Char.ofNat value), 0)
  | _ + 1, _, _, [] => (none, 0)
  | more + 1, low, high, b :: rest =>
      if low ≤ b.toNat ∧ b.toNat ≤ high then
        let (c, n) := follow (value * 64 + b.toNat % 64) more 0x80 0xBF rest
        (c, n + 1)
      else (none, 0)

/-- The text of any bytes. -/
def decodeLossyList : List UInt8 → List Char
  | [] => []
  | b :: rest =>
      match lead? b.toNat with
      | none => '\uFFFD' :: decodeLossyList rest
      | some (value, more, low, high) =>
          let (c, n) := follow value more low high rest
          c.getD '\uFFFD' :: decodeLossyList (rest.drop n)
  termination_by bs => bs.length
  decreasing_by all_goals simp only [List.length_cons, List.length_drop]; omega

/-- The text of any bytes, with U+FFFD for what is no text. -/
def decodeLossy (b : Bytes) : String :=
  match decode? b with
  | some s => s
  | none => String.ofList (decodeLossyList b.data.toList)

end Utf8

end Redelivery
