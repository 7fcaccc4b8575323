import Mathlib.Logic.Function.Iterate
import Redelivery.Pattern.Regex.Expr

/-!
# Pattern — what an expression spans

An expression spans a text from one position to another if the text between them can be put
together as the expression says (`Expr.Spans`).  The search for a match goes by sets of positions
instead: it takes all positions at which an expression may begin to all at which it may end.

**Search** (`moves_ends`, `isMatch_iff`).  A position is reached just if the expression spans the
text up to it from one of the positions that the search began at.  A repetition is searched for no
more rounds than there are positions.  That is enough: an expression never ends before it began, so
a round that gets nowhere can be left out, and the others are no more than the positions between
(`Times.shorten`).
-/

namespace Redelivery.Regex

/-- The character before a position. -/
def before (text : Array Nat) (i : Nat) : Option Nat := if i = 0 then none else text[i - 1]?

/-- Steps of a relation, so many of them in a row. -/
inductive Times (R : Nat → Nat → Prop) : Nat → Nat → Nat → Prop where
  | zero {i : Nat} : Times R 0 i i
  | more {n i k j : Nat} (h : R i k) (t : Times R n k j) : Times R (n + 1) i j

/-- The expression describes the text between the two positions. -/
def Expr.Spans (text : Array Nat) : Expr → Nat → Nat → Prop
  | .nothing, i, j => i = j
  | .one s, i, j => j = i + 1 ∧ ∃ c, text[i]? = some c ∧ s.contains c = true
  | .look l ascii, i, j => i = j ∧ l.holds ascii (before text i) text[i]? = true
  | .seq a b, i, j => ∃ k, a.Spans text i k ∧ b.Spans text k j
  | .alt a b, i, j => a.Spans text i j ∨ b.Spans text i j
  | .rep a least most, i, j =>
      ∃ n, least ≤ n ∧ (∀ m, most = some m → n ≤ max least m) ∧ Times (a.Spans text) n i j

/-- The expression describes the part of a text between two positions of it. -/
def Expr.SpansIn (e : Expr) (text : String) (i j : Nat) : Prop :=
  j ≤ text.length ∧ e.Spans (text.toList.map Char.toNat).toArray i j

/-! ### Steps in a row -/

namespace Times

variable {R : Nat → Nat → Prop} {m n i j : Nat}

theorem zero_iff : Times R 0 i j ↔ i = j :=
  ⟨fun h => by cases h; rfl, fun h => h ▸ .zero⟩

theorem succ_iff : Times R (n + 1) i j ↔ ∃ k, R i k ∧ Times R n k j :=
  ⟨fun h => by cases h with | more h t => exact ⟨_, h, t⟩, fun ⟨_, h, t⟩ => .more h t⟩

theorem add_iff : Times R (m + n) i j ↔ ∃ k, Times R m i k ∧ Times R n k j := by
  induction m generalizing i with
  | zero => simp [zero_iff]
  | succ m ih =>
      rw [Nat.add_right_comm, succ_iff]
      simp only [ih, succ_iff]
      constructor
      · rintro ⟨k, h, k', t, t'⟩
        exact ⟨k', ⟨k, h, t⟩, t'⟩
      · rintro ⟨k', ⟨k, h, t⟩, t'⟩
        exact ⟨k, h, k', t, t'⟩

theorem le (hR : ∀ i j, R i j → i ≤ j) (h : Times R n i j) : i ≤ j := by
  induction h with
  | zero => exact Nat.le_refl _
  | more h _ ih => exact Nat.le_trans (hR _ _ h) ih

/-- Steps that get nowhere can be left out. -/
theorem shorten (hR : ∀ i j, R i j → i ≤ j) (h : Times R n i j) :
    ∃ n' ≤ n, n' ≤ j - i ∧ Times R n' i j := by
  induction h with
  | zero => exact ⟨0, Nat.le_refl _, Nat.zero_le _, .zero⟩
  | @more n i k j h t ih =>
      obtain ⟨n', hn, hlen, t'⟩ := ih
      rcases Nat.eq_or_lt_of_le (hR i k h) with rfl | hlt
      · exact ⟨n', by omega, hlen, t'⟩
      · have := t.le hR
        exact ⟨n' + 1, by omega, by omega, .more h t'⟩

/-- Steps of which each may be left out. -/
theorem optional_iff : Times (fun i j => i = j ∨ R i j) n i j ↔ ∃ m ≤ n, Times R m i j := by
  induction n generalizing i with
  | zero => simp [zero_iff]
  | succ n ih =>
      rw [succ_iff]
      simp only [ih]
      constructor
      · rintro ⟨k, rfl | h, m, hm, t⟩
        · exact ⟨m, by omega, t⟩
        · exact ⟨m + 1, by omega, .more h t⟩
      · rintro ⟨_ | m, hm, t⟩
        · exact ⟨i, .inl rfl, 0, Nat.zero_le _, t⟩
        · obtain ⟨k, h, t⟩ := succ_iff.mp t
          exact ⟨k, .inr h, m, by omega, t⟩

end Times

/-- An expression does not end before it began. -/
theorem Expr.Spans.le {text : Array Nat} {e : Expr} {i j : Nat} (h : e.Spans text i j) :
    i ≤ j := by
  induction e generalizing i j with
  | nothing => exact Nat.le_of_eq h
  | one s => exact h.1 ▸ Nat.le_succ i
  | look l ascii => exact Nat.le_of_eq h.1
  | seq a b iha ihb =>
      obtain ⟨k, ha, hb⟩ := h
      exact Nat.le_trans (iha ha) (ihb hb)
  | alt a b iha ihb => exact h.elim iha ihb
  | rep a least most ih =>
      obtain ⟨n, -, -, t⟩ := h
      exact t.le fun _ _ => ih

/-! ### Sets of positions -/

namespace Positions

/-- The position belongs to the set. -/
def Has (s : Positions) (j : Nat) : Prop := s[j]? = some true

variable {s t : Positions} {j : Nat}

theorem Has.lt (h : s.Has j) : j < s.size := (Array.getElem?_eq_some_iff.mp h).1

theorem getD_iff : s.getD j false = true ↔ s.Has j := by
  rw [Array.getD_eq_getD_getElem?, Has]
  cases s[j]? with
  | none => simp
  | some b => simp

theorem has_mapIdx {f : Nat → Bool → Bool} :
    Has (s.mapIdx f) j ↔ ∃ b, s[j]? = some b ∧ f j b = true := by
  rw [Has, Array.getElem?_mapIdx, Option.map_eq_some_iff]

@[simp] theorem size_or (s t : Positions) : (s.or t).size = s.size := Array.size_mapIdx

theorem has_or (h : t.size = s.size) : (s.or t).Has j ↔ s.Has j ∨ t.Has j := by
  rw [or, has_mapIdx]
  simp only [Bool.or_eq_true, getD_iff]
  constructor
  · rintro ⟨b, hb, rfl | ht⟩
    · exact .inl hb
    · exact .inr ht
  · rintro (hs | ht)
    · exact ⟨true, hs, .inl rfl⟩
    · have hj : j < s.size := h ▸ ht.lt
      exact ⟨s[j], Array.getElem?_eq_getElem hj, .inr ht⟩

end Positions

/-- Rounds that change nothing any more are left out, and all others are made. -/
theorem iterate_eq (f : Positions → Positions) (n : Nat) (s : Positions) :
    iterate f n s = f^[n] s := by
  induction n generalizing s with
  | zero => rfl
  | succ n ih =>
      rw [iterate, Function.iterate_succ_apply]
      split
      · rename_i h
        rw [h, Function.iterate_fixed h]
      · exact ih _

/-- A function takes the sets of positions of a text to those that steps of a relation lead to. -/
def Moves (size : Nat) (f : Positions → Positions) (R : Nat → Nat → Prop) : Prop :=
  ∀ s : Positions, s.size = size →
    (f s).size = size ∧ ∀ j, (f s).Has j ↔ ∃ i, s.Has i ∧ R i j

namespace Moves

variable {size : Nat} {f g : Positions → Positions} {R S : Nat → Nat → Prop}

theorem comp (hf : Moves size f R) (hg : Moves size g S) :
    Moves size (fun s => g (f s)) fun i j => ∃ k, R i k ∧ S k j := by
  intro s hs
  obtain ⟨hsize, hhas⟩ := hf s hs
  obtain ⟨hsize', hhas'⟩ := hg (f s) hsize
  refine ⟨hsize', fun j => (hhas' j).trans ?_⟩
  simp only [hhas]
  constructor
  · rintro ⟨k, ⟨i, hi, hR⟩, hS⟩
    exact ⟨i, hi, k, hR, hS⟩
  · rintro ⟨i, hi, k, hR, hS⟩
    exact ⟨k, ⟨i, hi, hR⟩, hS⟩

theorem or (hf : Moves size f R) (hg : Moves size g S) :
    Moves size (fun s => Positions.or (f s) (g s)) fun i j => R i j ∨ S i j := by
  intro s hs
  obtain ⟨hsize, hhas⟩ := hf s hs
  obtain ⟨hsize', hhas'⟩ := hg s hs
  refine ⟨(Positions.size_or _ _).trans hsize, fun j => ?_⟩
  rw [Positions.has_or (hsize'.trans hsize.symm), hhas, hhas', ← exists_or]
  simp only [and_or_left]

theorem refl (size : Nat) : Moves size (fun s => s) Eq := fun s hs =>
  ⟨hs, fun j => by simp⟩

theorem iterate (hf : Moves size f R) (n : Nat) : Moves size (iterate f n) (Times R n) := by
  have hpower : Moves size f^[n] (Times R n) := by
    induction n with
    | zero => exact fun s hs => ⟨hs, fun j => by simp [Times.zero_iff]⟩
    | succ n ih =>
        have hstep := hf.comp ih
        simp only [← Times.succ_iff, ← Function.iterate_succ_apply] at hstep
        exact hstep
  exact fun s hs => by
    rw [iterate_eq]
    exact hpower s hs

end Moves

variable {text : Array Nat}

theorem moves_one (s : CharSet) :
    Moves (text.size + 1) ((Expr.one s).ends text) ((Expr.one s).Spans text) := by
  intro starts hstarts
  refine ⟨by rw [Expr.ends, Array.size_mapIdx, hstarts], fun j => ?_⟩
  rw [Expr.ends, Positions.has_mapIdx]
  simp only [Expr.Spans, Bool.and_eq_true, decide_eq_true_eq, Positions.getD_iff,
    Option.any_eq_true]
  constructor
  · rintro ⟨-, -, ⟨hj, hs⟩, c, hc, hmem⟩
    exact ⟨j - 1, hs, by omega, c, hc, hmem⟩
  · rintro ⟨i, hi, rfl, c, hc, hmem⟩
    have hlt : i + 1 < starts.size := by
      have := (Array.getElem?_eq_some_iff.mp hc).1
      omega
    exact ⟨starts[i + 1], Array.getElem?_eq_getElem hlt, ⟨by omega, hi⟩, c, hc, hmem⟩

theorem moves_look (l : Look) (ascii : Bool) :
    Moves (text.size + 1) ((Expr.look l ascii).ends text) ((Expr.look l ascii).Spans text) := by
  intro starts hstarts
  refine ⟨by rw [Expr.ends, Array.size_mapIdx, hstarts], fun j => ?_⟩
  rw [Expr.ends, Positions.has_mapIdx]
  simp only [Expr.Spans, Bool.and_eq_true]
  constructor
  · rintro ⟨b, hb, rfl, hl⟩
    exact ⟨j, hb, rfl, hl⟩
  · rintro ⟨i, hi, rfl, hl⟩
    exact ⟨true, hi, rfl, hl⟩

/-- How many rounds of a repetition are tried beyond the least number. -/
def furtherRounds (size least : Nat) : Option Nat → Nat
  | none => size + 1
  | some most => min (most - least) (size + 1)

/-- As many rounds as there are positions are enough for a repetition. -/
theorem moves_rep {a : Expr} (ha : Moves (text.size + 1) (a.ends text) (a.Spans text))
    (least : Nat) (most : Option Nat) :
    Moves (text.size + 1) ((Expr.rep a least most).ends text)
      ((Expr.rep a least most).Spans text) := by
  have hmoves := (ha.iterate least).comp
    (((Moves.refl _).or ha).iterate (furtherRounds text.size least most))
  intro starts hstarts
  obtain ⟨hsize, hhas⟩ := hmoves starts hstarts
  refine ⟨hsize, fun j => (hhas j).trans (exists_congr fun i => and_congr_right fun hi => ?_)⟩
  simp only [Times.optional_iff, Expr.Spans]
  constructor
  · rintro ⟨k, t, m, hm, t'⟩
    refine ⟨least + m, Nat.le_add_right _ _, fun most' hmost => ?_, Times.add_iff.mpr ⟨k, t, t'⟩⟩
    rw [hmost, furtherRounds] at hm
    omega
  · rintro ⟨n, hleast, hmost, t⟩
    obtain ⟨m, rfl⟩ := Nat.exists_eq_add_of_le hleast
    obtain ⟨hreached, hends⟩ := ha.iterate (least + m) starts hstarts
    have hj := ((hends j).mpr ⟨i, hi, t⟩).lt
    obtain ⟨k, t, t'⟩ := Times.add_iff.mp t
    obtain ⟨m', hm', hlen, t'⟩ := t'.shorten fun _ _ => Expr.Spans.le
    refine ⟨k, t, m', ?_, t'⟩
    cases most with
    | none =>
        rw [furtherRounds]
        omega
    | some most' =>
        have := hmost most' rfl
        rw [furtherRounds]
        omega

/-- **The search** takes the positions at which an expression may begin to those at which it may
end. -/
theorem moves_ends (text : Array Nat) (e : Expr) :
    Moves (text.size + 1) (e.ends text) (e.Spans text) := by
  induction e with
  | nothing => exact .refl _
  | one s => exact moves_one s
  | look l ascii => exact moves_look l ascii
  | seq a b iha ihb => exact iha.comp ihb
  | alt a b iha ihb => exact iha.or ihb
  | rep a least most ih => exact moves_rep ih least most

/-- **A match** is found just if the expression spans some part of the text. -/
theorem isMatch_iff {e : Expr} {text : String} :
    e.isMatch text = true ↔ ∃ i j, e.SpansIn text i j := by
  unfold Expr.isMatch Expr.SpansIn
  dsimp only
  generalize htext : (text.toList.map Char.toNat).toArray = chars
  have hlen : text.length = chars.size := by simp [← htext, ← String.length_toList]
  have hall : (Array.replicate (chars.size + 1) true).size = chars.size + 1 := by simp
  obtain ⟨hsize, hhas⟩ := moves_ends chars e _ hall
  rw [Array.any_eq_true, hlen]
  constructor
  · rintro ⟨j, hj, hjtrue⟩
    obtain ⟨i, -, h⟩ := (hhas j).mp (Array.getElem?_eq_some_iff.mpr ⟨hj, hjtrue⟩)
    exact ⟨i, j, by omega, h⟩
  · rintro ⟨i, j, hj, h⟩
    have hi := h.le
    have hstart : Positions.Has (Array.replicate (chars.size + 1) true) i := by
      rw [Positions.Has, Array.getElem?_replicate, if_pos (by omega)]
    obtain ⟨hlt, hjtrue⟩ := Array.getElem?_eq_some_iff.mp ((hhas j).mpr ⟨i, hstart, h⟩)
    exact ⟨j, hlt, hjtrue⟩

end Redelivery.Regex
