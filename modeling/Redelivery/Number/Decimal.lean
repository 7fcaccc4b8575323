import Redelivery.Text.Blank

/-!
# Number — Decimal

Integers in text.  Writing is core's (`toString`); reading takes an optional sign and at least
one ASCII digit, nothing else, and refuses a value outside the range asked for.  Only a signed
range admits a minus sign, so `-0` is no natural number.  The main statement is that what was
written is read back (`readNat?_toString`, `readInt?_toString`).
-/

namespace Redelivery.Decimal

/-- The value of a text that consists of one or more ASCII digits. -/
def digits? (cs : List Char) : Option Nat :=
  if cs ≠ [] ∧ cs.all Char.isDigit then some (Nat.ofDigitChars 10 cs 0) else none

/-- The value of digits with an optional plus sign. -/
def nat? : List Char → Option Nat
  | '+' :: cs => digits? cs
  | cs => digits? cs

/-- The value of digits with an optional sign. -/
def int? : List Char → Option Int
  | '-' :: cs => (digits? cs).map fun n => -(n : Int)
  | cs => (nat? cs).map Int.ofNat

/-- The natural number written in `s` between blanks, if it is at most `most`. -/
def readNat? (most : Nat) (s : String) : Option Nat :=
  (nat? (Text.trim s.toList)).filter (· ≤ most)

/-- The integer written in `s` between blanks, if it lies in the given range. -/
def readInt? (least most : Int) (s : String) : Option Int :=
  (int? (Text.trim s.toList)).filter fun i => least ≤ i && i ≤ most

/-- The unsigned word of 32 bits written in `s`. -/
def readUInt32? (s : String) : Option UInt32 := (readNat? (UInt32.size - 1) s).map UInt32.ofNat

/-- The signed word of 32 bits written in `s`. -/
def readInt32? (s : String) : Option Int32 :=
  (readInt? Int32.minValue.toInt Int32.maxValue.toInt s).map Int32.ofInt

/-- The signed word of 64 bits written in `s`. -/
def readInt64? (s : String) : Option Int64 :=
  (readInt? Int64.minValue.toInt Int64.maxValue.toInt s).map Int64.ofInt

theorem isBlank_of_isDigit {c : Char} (h : c.isDigit = true) : Text.isBlank c = false := by
  simp only [Char.isDigit, ge_iff_le, Bool.and_eq_true, decide_eq_true_eq, UInt32.le_iff_toNat_le]
    at h
  have h₁ : 48 ≤ c.toNat := h.1
  have h₂ : c.toNat ≤ 57 := h.2
  simp only [Text.isBlank, Bool.or_eq_false_iff, Bool.and_eq_false_iff, beq_eq_false_iff_ne,
    decide_eq_false_iff_not]
  omega

theorem digits?_toDigits (n : Nat) : digits? (Nat.toDigits 10 n) = some n := by
  have hd : (Nat.toDigits 10 n).all Char.isDigit = true := by
    rw [List.all_eq_true]
    exact fun c hc => Nat.isDigit_of_mem_toDigits (by decide) (by decide) hc
  rw [digits?, if_pos ⟨Nat.toDigits_ne_nil, hd⟩, Nat.ofDigitChars_toDigits (by decide) (by decide)]

theorem trim_toDigits (sign : List Char) (hs : ∀ c ∈ sign, Text.isBlank c = false) (n : Nat) :
    Text.trim (sign ++ Nat.toDigits 10 n) = sign ++ Nat.toDigits 10 n := by
  have hb : ∀ c ∈ sign ++ Nat.toDigits 10 n, Text.isBlank c = false := by
    intro c hc
    rcases List.mem_append.mp hc with h | h
    · exact hs c h
    · exact isBlank_of_isDigit (Nat.isDigit_of_mem_toDigits (by decide) (by decide) h)
  exact Text.trim_eq_self (fun c hc => hb c (List.mem_of_head? hc))
    (fun c hc => hb c (List.mem_of_getLast? hc))

/-- Digits that were written begin with a digit. -/
theorem toDigits_eq_cons (n : Nat) : ∃ c cs, Nat.toDigits 10 n = c :: cs ∧ c.isDigit = true := by
  cases hd : Nat.toDigits 10 n with
  | nil => exact absurd hd Nat.toDigits_ne_nil
  | cons c cs =>
      exact ⟨c, cs, rfl,
        Nat.isDigit_of_mem_toDigits (b := 10) (n := n) (by decide) (by decide) (by simp [hd])⟩

theorem nat?_toDigits (n : Nat) : nat? (Nat.toDigits 10 n) = some n := by
  obtain ⟨c, cs, hd, hc⟩ := toDigits_eq_cons n
  have hplus : c ≠ '+' := by rintro rfl; revert hc; decide
  rw [hd, nat?.eq_2 _ (fun _ e => hplus (List.cons.inj e).1), ← hd, digits?_toDigits]

theorem int?_toDigits (n : Nat) : int? (Nat.toDigits 10 n) = some (n : Int) := by
  obtain ⟨c, cs, hd, hc⟩ := toDigits_eq_cons n
  have hminus : c ≠ '-' := by rintro rfl; revert hc; decide
  rw [hd, int?.eq_2 _ (fun _ e => hminus (List.cons.inj e).1), ← hd, nat?_toDigits]
  rfl

theorem readNat?_toString {most n : Nat} (h : n ≤ most) : readNat? most (toString n) = some n := by
  have ht : Text.trim (toString n).toList = Nat.toDigits 10 n := by
    rw [Nat.toString_eq_repr, Nat.toList_repr]
    exact trim_toDigits [] (by simp) n
  rw [readNat?, ht, nat?_toDigits]
  simp [h]

theorem readInt?_toString {least most i : Int} (hl : least ≤ i) (hm : i ≤ most) :
    readInt? least most (toString i) = some i := by
  have hr : int? (Text.trim (toString i).toList) = some i := by
    cases i with
    | ofNat n =>
        have : (toString (Int.ofNat n)).toList = Nat.toDigits 10 n := by
          rw [← Nat.toList_repr]; rfl
        rw [this, show Text.trim (Nat.toDigits 10 n) = _ from trim_toDigits [] (by simp) n]
        exact int?_toDigits n
    | negSucc n =>
        have : (toString (Int.negSucc n)).toList = '-' :: Nat.toDigits 10 (n + 1) := by
          rw [← Nat.toList_repr]
          show ("-" ++ (n + 1).repr).toList = _
          simp
        have hs : ∀ c ∈ ['-'], Text.isBlank c = false := fun c hc => by
          rw [List.mem_singleton.mp hc]; rfl
        rw [this, ← List.singleton_append, trim_toDigits ['-'] hs (n + 1)]
        show (digits? (Nat.toDigits 10 (n + 1))).map (fun n => -(n : Int)) = _
        rw [digits?_toDigits]
        rfl
  rw [readInt?, hr]
  simp [hl, hm]

theorem readUInt32?_toString (n : UInt32) : readUInt32? (toString n.toNat) = some n := by
  rw [readUInt32?, readNat?_toString (Nat.le_sub_one_of_lt n.toNat_lt)]
  simp

theorem readInt32?_toString (i : Int32) : readInt32? (toString i.toInt) = some i := by
  rw [readInt32?, readInt?_toString i.minValue_le_toInt i.toInt_le]
  simp

theorem readInt64?_toString (i : Int64) : readInt64? (toString i.toInt) = some i := by
  rw [readInt64?, readInt?_toString i.minValue_le_toInt i.toInt_le]
  simp

end Redelivery.Decimal
