import Mathlib.Data.List.Nodup
import Redelivery.Proofs.Chain.Layout

/-!
# Chain — suffixes that repeat

The suffix of a retry stage is a number behind a dash, or two numbers behind a dash each: the delay
of the stage, and how often the same delay came before it.  Digits are no dashes, so that the
numbers can be read off a suffix again (`valueSuffix_inj`), and one delay that occurs twice comes
with a larger count the second time (`count_take_lt`).  So no two retry stages have the same suffix,
and none has that of the main stage (`nodup_retrySuffixes`, `empty_notMem_retrySuffixes`).

**Repetition** (`distinct_suffixes`).  A chain whose values are in range is refused for a suffix
that repeats just if a dead-letter stage repeats it, or if all retries share a stage whose suffix is
empty (`ChainSpec.Repeats`).
-/

namespace Redelivery

/-- Numbers that are written alike are equal. -/
theorem toDigits_injective : Function.Injective (Nat.toDigits 10) := fun m n h => by
  rw [← Nat.ofDigitChars_ten_toDigits (n := m), h, Nat.ofDigitChars_ten_toDigits]

/-- A text that is digits up to a dash, or to its end, is read in one way only. -/
theorem toDigits_append_inj {m n : Nat} {t u : List Char} (ht : ∀ c ∈ t.head?, c = '-')
    (hu : ∀ c ∈ u.head?, c = '-') (h : Nat.toDigits 10 m ++ t = Nat.toDigits 10 n ++ u) :
    m = n ∧ t = u := by
  have hdigits : ∀ k, ∀ c ∈ Nat.toDigits 10 k, c.isDigit = true := fun k c hc =>
    Nat.isDigit_of_mem_toDigits (by decide) (by decide) hc
  have hstop : ∀ v : List Char, (∀ c ∈ v.head?, c = '-') → v.takeWhile Char.isDigit = [] := by
    intro v hv
    cases v with
    | nil => rfl
    | cons c v =>
        obtain rfl := hv c rfl
        rfl
  have htake := congrArg (List.takeWhile Char.isDigit) h
  rw [List.takeWhile_append_of_pos (hdigits m), List.takeWhile_append_of_pos (hdigits n),
    hstop t ht, hstop u hu, List.append_nil, List.append_nil] at htake
  rw [htake] at h
  exact ⟨toDigits_injective htake, List.append_cancel_left h⟩

/-- An element occurs more often up to a later place where it stands. -/
theorem count_take_lt {α : Type} [BEq α] [LawfulBEq α] {l : List α} {a : α} {i j : Nat}
    (hi : l[i]? = some a) (hij : i < j) : (l.take i).count a < (l.take j).count a := by
  have hone : (l.take (i + 1)).count a = (l.take i).count a + 1 := by
    rw [List.take_add_one, hi, Option.toList_some, List.count_append, List.count_singleton_self]
  have hle : (l.take (i + 1)).count a ≤ (l.take j).count a :=
    (List.take_sublist_take_left (by omega)).count_le a
  omega

namespace Chain

/-- The first name that repeats comes after names that all differ, and was seen before. -/
theorem firstRepeated_eq_some_iff {seen l : List String} {a : String} :
    firstRepeated seen l = some a ↔
      ∃ before after, l = before ++ a :: after ∧ before.Nodup ∧ (∀ b ∈ before, b ∉ seen) ∧
        (a ∈ before ∨ a ∈ seen) := by
  induction l generalizing seen with
  | nil => simp [firstRepeated]
  | cons b l ih =>
      rw [firstRepeated]
      by_cases hb : b ∈ seen
      · rw [if_pos (List.contains_iff_mem.mpr hb), Option.some.injEq]
        constructor
        · rintro rfl
          exact ⟨[], l, rfl, List.nodup_nil, by simp, .inr hb⟩
        · rintro ⟨_ | ⟨x, before⟩, after, hl, -, hnew, -⟩
          · exact (List.cons.inj hl).1
          · obtain ⟨rfl, -⟩ := List.cons.inj hl
            exact absurd hb (hnew b (List.mem_cons_self ..))
      · rw [if_neg (mt List.contains_iff_mem.mp hb), ih]
        constructor
        · rintro ⟨before, after, rfl, hn, hnew, ha⟩
          refine ⟨b :: before, after, rfl, List.nodup_cons.mpr ⟨fun h => ?_, hn⟩, ?_, ?_⟩
          · exact hnew b h (List.mem_cons_self ..)
          · exact List.forall_mem_cons.mpr ⟨hb, fun x hx hs =>
              hnew x hx (List.mem_cons_of_mem _ hs)⟩
          · simp only [List.mem_cons] at ha ⊢
            tauto
        · rintro ⟨_ | ⟨x, before⟩, after, hl, hn, hnew, ha⟩
          · obtain ⟨rfl, -⟩ := List.cons.inj hl
            exact absurd (ha.resolve_left List.not_mem_nil) hb
          · obtain ⟨rfl, rfl⟩ := List.cons.inj hl
            obtain ⟨hb', hn⟩ := List.nodup_cons.mp hn
            obtain ⟨-, hnew⟩ := List.forall_mem_cons.mp hnew
            refine ⟨before, after, rfl, hn, fun x hx hs => ?_, ?_⟩
            · rcases List.mem_cons.mp hs with rfl | hs
              · exact hb' hx
              · exact hnew x hx hs
            · simp only [List.mem_cons] at ha ⊢
              tauto

/-- Stages of which the first is the main one are refused for a suffix just if it is the first that
repeats. -/
theorem ofStages_eq_duplicateSuffix_iff {main : Stage} {later : List Stage} {x : String}
    (h : main.isMain = true) : ofStages (main :: later) = .error (.duplicateSuffix x) ↔
      firstRepeated [] ((main :: later).map Stage.suffix) = some x := by
  simp only [ofStages, h]
  cases firstRepeated [] ((main :: later).map Stage.suffix) with
  | some y => simp
  | none => simp only [Bool.not_true, Bool.false_eq_true, if_false]; split_ifs <;> simp

end Chain

namespace ChainSpec

variable {s : ChainSpec} {delays : List Millis} {draw : UInt32 → Nat}

/-! ### Retry stages -/

theorem toList_valueSuffix (s : ChainSpec) (d : Millis) (n : Nat) :
    (s.valueSuffix d n).toList = s.retrySuffix.toList ++ '-' ::
      (Nat.toDigits 10 d.toNat ++ if n = 0 then [] else '-' :: Nat.toDigits 10 n) := by
  unfold valueSuffix
  split <;> simp [String.toList_append]

/-- The delay and the count of a stage can be read off its suffix. -/
theorem valueSuffix_inj {d d' : Millis} {n n' : Nat}
    (h : s.valueSuffix d n = s.valueSuffix d' n') : d = d' ∧ n = n' := by
  have htext := congrArg String.toList h
  rw [toList_valueSuffix, toList_valueSuffix] at htext
  obtain ⟨hd, hcount⟩ := toDigits_append_inj (by split <;> simp) (by split <;> simp)
    (List.cons.inj (List.append_cancel_left htext)).2
  refine ⟨UInt64.toNat_inj.mp hd, ?_⟩
  -- only a count of zero is left out
  split at hcount
  · split at hcount
    · omega
    · cases hcount
  · split at hcount
    · cases hcount
    · exact toDigits_injective (List.cons.inj hcount).2

/-- Retry stages at two places have two suffixes. -/
theorem suffixAt_ne {i j : Nat} {d d' : Millis} (hi : delays[i]? = some d) (hij : i < j) :
    s.suffixAt delays i d ≠ s.suffixAt delays j d' := by
  intro h
  unfold suffixAt at h
  cases hs : s.suffixing with
  | index =>
      simp only [hs] at h
      rw [String.append_right_inj, Nat.toString_eq_ofList_toDigits, Nat.toString_eq_ofList_toDigits,
        String.ofList_inj] at h
      have := toDigits_injective h
      omega
  | delayValue =>
      simp only [hs] at h
      obtain ⟨rfl, hcount⟩ := valueSuffix_inj h
      have := count_take_lt hi hij
      omega

/-- **Retry suffixes differ.** -/
theorem nodup_retrySuffixes (s : ChainSpec) (delays : List Millis) :
    (s.retrySuffixes delays).Nodup := by
  rw [retrySuffixes_eq, List.Nodup, List.pairwise_iff_getElem]
  intro i j hi hj hij
  rw [List.getElem_mapIdx, List.getElem_mapIdx]
  rw [List.length_mapIdx] at hi
  exact suffixAt_ne (List.getElem?_eq_getElem hi) hij

/-- No retry suffix is that of the main stage. -/
theorem empty_notMem_retrySuffixes (s : ChainSpec) (delays : List Millis) :
    "" ∉ s.retrySuffixes delays := by
  rw [retrySuffixes_eq, List.mem_mapIdx]
  rintro ⟨i, hi, h⟩
  have hdash : '-' ∈ (s.suffixAt delays i delays[i]).toList := by
    unfold suffixAt
    split
    · simp [String.toList_append]
    · simp [toList_valueSuffix]
  rw [h] at hdash
  exact absurd hdash (by simp)

/-! ### All stages -/

/-- The main stage and the retry stages. -/
def consumedStages (s : ChainSpec) (delays : List Millis) : List Stage :=
  s.stage delays "" 0 .main none :: s.retriesFor delays

theorem stages_eq (s : ChainSpec) (delays : List Millis) :
    s.stages delays = s.consumedStages delays ++ s.deadLetterStages delays := rfl

theorem suffix_consumedStages_of_shares (h : s.Shares delays) :
    (s.consumedStages delays).map Stage.suffix = ["", s.retrySuffix] := by
  rw [consumedStages, retriesFor, if_pos (reuses_iff.mpr h)]
  rfl

/-- The main stage and the retry stages have different suffixes, unless all retries share a stage
whose suffix is empty. -/
theorem nodup_consumedStages_iff :
    ((s.consumedStages delays).map Stage.suffix).Nodup ↔
      ¬ (s.Shares delays ∧ s.retrySuffix = "") := by
  by_cases h : s.Shares delays
  · rw [suffix_consumedStages_of_shares h]
    simp [h, eq_comm (a := "")]
  · rw [consumedStages, List.map_cons, List.nodup_cons, retriesFor, if_neg (mt reuses_iff.mp h),
      suffix_retryStages, List.map_fst_zip (Nat.le_of_eq (s.length_retrySuffixes _))]
    exact iff_of_true ⟨s.empty_notMem_retrySuffixes delays, s.nodup_retrySuffixes delays⟩
      fun hs => h hs.1

/-- The first suffix that repeats is that of a dead-letter stage, or the empty one of a stage that
all retries share. -/
inductive Repeats (s : ChainSpec) (delays : List Millis) : String → Prop where
  /-- The stages before it all differ, and one of them has the same suffix. -/
  | deadLetter {before after : List Stage} {x : Stage}
      (hl : s.stages delays = before ++ x :: after) (hx : x.role.isDeadLetter = true)
      (hn : (before.map Stage.suffix).Nodup) (hm : x.suffix ∈ before.map Stage.suffix) :
      Repeats s delays x.suffix
  | shared (h : s.Shares delays) (hs : s.retrySuffix = "") : Repeats s delays ""

/-- A stage that repeats the suffix of an earlier one, and is no dead-letter stage, is shared by
all retries. -/
theorem shares_of_repeats {before after : List Stage} {x : Stage}
    (hl : s.stages delays = before ++ x :: after) (hx : ¬ x.role.isDeadLetter = true)
    (hm : x.suffix ∈ before.map Stage.suffix) :
    (s.Shares delays ∧ s.retrySuffix = "") ∧ x.suffix = "" := by
  rw [stages_eq] at hl
  -- the stage is one of the first ones, as the dead-letter stages come last
  have hfront : before ++ [x] <+: s.consumedStages delays := by
    have hnot : x ∉ s.deadLetterStages delays := fun h => hx (mem_deadLetterStages h)
    rcases List.append_eq_append_iff.mp hl with ⟨mid, -, hmid⟩ | ⟨mid, hfront, hmid⟩
    · rw [hmid] at hnot
      simp at hnot
    · cases mid with
      | nil =>
          rw [← List.nil_append (s.deadLetterStages delays), ← hmid] at hnot
          simp at hnot
      | cons y mid =>
          obtain ⟨rfl, -⟩ := List.cons.inj hmid
          exact ⟨mid, by simp [hfront]⟩
  have hsuffixes := hfront.map Stage.suffix
  rw [List.map_append, List.map_singleton] at hsuffixes
  have hrepeat : ¬ ((s.consumedStages delays).map Stage.suffix).Nodup := fun h =>
    (List.nodup_append.mp (h.sublist hsuffixes.sublist)).2.2 _ hm _ (List.mem_singleton_self _) rfl
  have hshared := not_not.mp (mt nodup_consumedStages_iff.mpr hrepeat)
  refine ⟨hshared, ?_⟩
  rw [suffix_consumedStages_of_shares hshared.1, hshared.2] at hsuffixes
  have hmem : x.suffix ∈ ["", ""] := hsuffixes.subset (by simp)
  simpa using hmem

theorem repeats_iff {x : String} : s.Repeats delays x ↔
    Chain.firstRepeated [] ((s.stages delays).map Stage.suffix) = some x := by
  rw [Chain.firstRepeated_eq_some_iff]
  simp only [List.not_mem_nil, not_false_eq_true, implies_true, or_false, true_and]
  constructor
  · intro h
    cases h with
    | @deadLetter before after x hl hx hn hm =>
        exact ⟨before.map Stage.suffix, after.map Stage.suffix, by simp [hl], hn, hm⟩
    | shared h hs =>
        refine ⟨[""], (s.deadLetterStages delays).map Stage.suffix, ?_, by simp, by simp⟩
        rw [stages_eq, List.map_append, suffix_consumedStages_of_shares h, hs]
        rfl
  · rintro ⟨before, after, hl, hn, hm⟩
    obtain ⟨before, rest, hstages, rfl, hrest⟩ := List.map_eq_append_iff.mp hl
    obtain ⟨x, after, rfl, rfl, -⟩ := List.map_eq_cons_iff.mp hrest
    by_cases hx : x.role.isDeadLetter = true
    · exact .deadLetter hstages hx hn hm
    · obtain ⟨⟨h, hs⟩, he⟩ := shares_of_repeats hstages hx hm
      rw [he]
      exact .shared h hs

/-- The values that a chain is built from are in range. -/
structure InRange (s : ChainSpec) : Prop where
  attempts : s.maxAttempts ≠ 0
  partitions : ¬ s.creation.partitions < 1
  deadLetterSuffix : s.deadLetterSuffix ≠ ""

theorem build_eq_duplicateSuffix_iff {x : String} :
    s.build draw = .error (.duplicateSuffix x) ↔ s.InRange ∧ s.Repeats (s.delays draw) x := by
  have hstages : Chain.ofStages (s.stages (s.delays draw)) = .error (.duplicateSuffix x) ↔
      s.Repeats (s.delays draw) x :=
    (Chain.ofStages_eq_duplicateSuffix_iff rfl).trans repeats_iff.symm
  rw [← hstages]
  unfold build
  split_ifs with ha hp hd
  · exact iff_of_false (by simp) fun h => h.1.attempts ha
  · exact iff_of_false (by simp) fun h => h.1.partitions hp
  · exact iff_of_false (by simp) fun h => h.1.deadLetterSuffix hd
  · exact (and_iff_right ⟨ha, hp, hd⟩).symm

/-- What can be said of the suffixes of a chain. -/
structure Distinct (s : ChainSpec) : Prop where
  length : ∀ delays, (s.retrySuffixes delays).length = delays.length
  nodup : ∀ delays, (s.retrySuffixes delays).Nodup
  nonempty : ∀ delays, "" ∉ s.retrySuffixes delays
  refused : ∀ draw x, s.build draw = .error (.duplicateSuffix x) ↔
    s.InRange ∧ s.Repeats (s.delays draw) x

/-- **The suffixes** of every chain. -/
theorem distinct_suffixes (s : ChainSpec) : s.Distinct where
  length := s.length_retrySuffixes
  nodup := s.nodup_retrySuffixes
  nonempty := s.empty_notMem_retrySuffixes
  refused _ _ := build_eq_duplicateSuffix_iff

/-- A delay of 1000 that comes twice, and one whose digits end like a count. -/
example : ChainSpec.retrySuffixes { suffixing := .delayValue } [1000, 1000, 1, 10001] =
    ["-retry-1000", "-retry-1000-1", "-retry-1", "-retry-10001"] := by
  decide

end ChainSpec

end Redelivery
