import Mathlib.Data.List.Induction
import Mathlib.Data.List.ReduceOption
import Redelivery.Proofs.Chain.Layout

/-!
# Backoff — walks along a policy

A walk is asked for delays any number of times, each time with a draw of its own.  It asks its
policy for the delay after one more attempt each time, until its limit is reached, and passes on
what the policy says (`Policy.replies`); from then on it has none (`answers_start`).  A walk that
repeats has the last delay that it was told, or zero, and it begins anew when it is reset
(`Repeating.Request`, `Repeating.run`).

**Walks** (`walks_of_policy`).  There are never more delays than the limit allows.  But an attempt
counts as asked for also if the policy stops there, and a policy that stops is asked again.  So the
count of a walk is the number of its delays just if the policy has stopped nowhere, and nothing
comes after a stop just if nothing does in what the policy says (`StopsForGood`).  A policy that
stops once and then goes on shows both (`answers_resuming`).
-/

namespace Redelivery.Backoff

/-- After a stop come only stops. -/
def StopsForGood (answers : List (Option Millis)) : Prop :=
  answers.Pairwise fun earlier later => earlier = none → later = none

instance (answers : List (Option Millis)) : Decidable (StopsForGood answers) :=
  inferInstanceAs (Decidable (List.Pairwise _ _))

/-- The last delay among some answers, or zero. -/
def lastDelay (answers : List (Option Millis)) : Millis := answers.reduceOption.getLastD 0

/-- What a policy says after one attempt after the other, each time with a draw of its own. -/
def Policy.replies (p : Policy) (draws : List (UInt32 → Nat)) : List (Option Millis) :=
  draws.mapIdx fun i draw => p.delayAfter? draw (i + 1)

namespace Cursor

/-- The walk after it was asked with some draws. -/
def after (c : Cursor) (draws : List (UInt32 → Nat)) : Cursor :=
  draws.foldl (fun c draw => (c.next draw).2) c

/-- What a walk that is asked with some draws answers, in order. -/
def answers (c : Cursor) : List (UInt32 → Nat) → List (Option Millis)
  | [] => []
  | draw :: draws => (c.next draw).1 :: (c.next draw).2.answers draws

variable {c : Cursor} {draw : UInt32 → Nat} {draws : List (UInt32 → Nat)}

/-- A walk at its limit stays as it is. -/
theorem next_of_limit (h : c.asked = c.limit) (draw : UInt32 → Nat) : c.next draw = (none, c) := by
  rw [next, if_pos (UInt32.le_of_eq h.symm)]

theorem answers_of_limit (h : c.asked = c.limit) (draws : List (UInt32 → Nat)) :
    c.answers draws = List.replicate draws.length none := by
  induction draws with
  | nil => rfl
  | cons draw draws ih =>
      rw [answers, next_of_limit h, ih]
      rfl

/-- **What a walk answers** that has asked already for some of the delays that it may ask for. -/
theorem answers_eq (h : c.asked.toNat ≤ c.limit.toNat) (draws : List (UInt32 → Nat)) :
    c.answers draws =
      (draws.take (c.limit.toNat - c.asked.toNat)).mapIdx
          (fun i draw => c.policy.delayAfter? draw (c.asked.toNat + i + 1)) ++
        List.replicate (draws.length - (c.limit.toNat - c.asked.toNat)) none := by
  induction draws generalizing c with
  | nil => simp [answers]
  | cons draw draws ih =>
      rcases Nat.lt_or_ge c.asked.toNat c.limit.toNat with hlt | hge
      · obtain ⟨hnext, hasked⟩ := next_of_lt hlt draw
        obtain ⟨n, hn⟩ : ∃ n, c.limit.toNat - c.asked.toNat = n + 1 :=
          ⟨c.limit.toNat - c.asked.toNat - 1, by omega⟩
        have hrest : c.limit.toNat - (c.asked.toNat + 1) = n := by omega
        rw [answers, hnext]
        dsimp only
        rw [ih (by dsimp only; omega), hn]
        dsimp only
        rw [hasked, hrest, List.take_succ_cons, List.mapIdx_cons, List.length_cons,
          Nat.add_sub_add_right, List.cons_append, Nat.add_zero]
        simp only [Nat.add_assoc, Nat.add_comm 1]
      · have heq : c.asked = c.limit := UInt32.toNat_inj.mp (Nat.le_antisymm h hge)
        rw [answers_of_limit heq, heq, Nat.sub_self]
        simp

/-- A walk keeps its policy and its limit, and counts what it asks for. -/
theorem after_eq (h : c.asked.toNat ≤ c.limit.toNat) (draws : List (UInt32 → Nat)) :
    (c.after draws).policy = c.policy ∧ (c.after draws).limit = c.limit ∧
      (c.after draws).asked.toNat = min (c.asked.toNat + draws.length) c.limit.toNat := by
  induction draws generalizing c with
  | nil => exact ⟨rfl, rfl, (Nat.min_eq_left h).symm⟩
  | cons draw draws ih =>
      have hstep : c.after (draw :: draws) = (c.next draw).2.after draws := rfl
      rw [hstep, List.length_cons]
      rcases Nat.lt_or_ge c.asked.toNat c.limit.toNat with hlt | hge
      · obtain ⟨hnext, hasked⟩ := next_of_lt hlt draw
        rw [hnext]
        obtain ⟨hp, hl, ha⟩ := ih (c := { c with asked := c.asked + 1 }) (by dsimp only; omega)
        refine ⟨hp, hl, ha.trans ?_⟩
        dsimp only
        omega
      · have heq : c.asked = c.limit := UInt32.toNat_inj.mp (Nat.le_antisymm h hge)
        rw [next_of_limit heq]
        obtain ⟨hp, hl, ha⟩ := ih h
        refine ⟨hp, hl, ha.trans ?_⟩
        omega

theorem after_concat (c : Cursor) (draws : List (UInt32 → Nat)) (draw : UInt32 → Nat) :
    c.after (draws ++ [draw]) = ((c.after draws).next draw).2 := by
  simp [after]

theorem answers_append (c : Cursor) (draws draws' : List (UInt32 → Nat)) :
    c.answers (draws ++ draws') = c.answers draws ++ (c.after draws).answers draws' := by
  induction draws generalizing c with
  | nil => rfl
  | cons draw draws ih => simp only [List.cons_append, answers, ih]; rfl

end Cursor

/-! ### What a policy says -/

variable {p : Policy} {limit : UInt32} {draws : List (UInt32 → Nat)}

/-- **What a walk answers** from the start: what the policy says, as often as the limit allows, and
then nothing any more. -/
theorem answers_start (p : Policy) (limit : UInt32) (draws : List (UInt32 → Nat)) :
    (p.start limit).answers draws =
      p.replies (draws.take limit.toNat) ++
        List.replicate (draws.length - limit.toNat) none := by
  have h := (p.start limit).answers_eq (Nat.zero_le _) draws
  simpa only [Policy.start, UInt32.toNat_zero, Nat.sub_zero, Nat.zero_add, Policy.replies] using h

theorem length_replies (p : Policy) (draws : List (UInt32 → Nat)) :
    (p.replies draws).length = draws.length :=
  List.length_mapIdx

/-- Only a rule of one's own ever stops. -/
theorem none_notMem_replies (h : ∀ f, p ≠ .custom f) (draws : List (UInt32 → Nat)) :
    none ∉ p.replies draws := by
  have hsome : ∀ n draw, p.delayAfter? draw n ≠ none := by
    intro n draw
    cases p with
    | custom f => exact absurd rfl (h f)
    | none | fixed _ | exponential _ _ _ | exponentialRandom _ _ _ _ | uniformRandom _ _ =>
        exact Option.some_ne_none _
  rw [Policy.replies, List.mem_mapIdx]
  rintro ⟨i, hi, hnone⟩
  exact hsome _ _ hnone

@[simp] theorem reduceOption_append_replicate (l : List (Option Millis)) (k : Nat) :
    (l ++ List.replicate k none).reduceOption = l.reduceOption := by
  rw [List.reduceOption_append, List.reduceOption_replicate_none, List.append_nil]

/-- Stops at the end do not matter to whether delays come after a stop. -/
theorem stopsForGood_append_replicate {l : List (Option Millis)} {k : Nat} :
    StopsForGood (l ++ List.replicate k none) ↔ StopsForGood l := by
  unfold StopsForGood
  rw [List.pairwise_append]
  constructor
  · exact fun h => h.1
  · intro h
    refine ⟨h, List.pairwise_replicate.mpr (.inr fun _ => rfl), fun _ _ b hb _ => ?_⟩
    exact List.eq_of_mem_replicate hb

theorem lastDelay_concat (l : List (Option Millis)) (a : Option Millis) :
    lastDelay (l ++ [a]) = a.getD (lastDelay l) := by
  rw [lastDelay, ← List.concat_eq_append, List.reduceOption_concat]
  cases a with
  | none => simp [lastDelay]
  | some d => simp

/-! ### Walks that repeat -/

namespace Repeating

/-- What is asked of a walk that repeats. -/
inductive Request where
  | next (draw : UInt32 → Nat)
  | reset

/-- The walk after a request. -/
def perform (r : Repeating) : Request → Repeating
  | .next draw => (r.next draw).2
  | .reset => r.reset

/-- The walk after requests that follow each other. -/
def run (p : Policy) (limit : UInt32) (requests : List Request) : Repeating :=
  requests.foldl perform (.new p limit)

/-- The draws of the requests for a delay since the last reset. -/
def sinceReset (requests : List Request) : List (UInt32 → Nat) :=
  requests.foldl (fun draws => fun
    | .next draw => draws ++ [draw]
    | .reset => []) []

/-- The walk that was asked with some draws since its start. -/
def told (p : Policy) (limit : UInt32) (draws : List (UInt32 → Nat)) : Repeating where
  policy := p
  limit := limit
  cursor := if draws.isEmpty then none else some ((p.start limit).after draws)
  last := lastDelay ((p.start limit).answers draws)

theorem next_told (p : Policy) (limit : UInt32) (draws : List (UInt32 → Nat))
    (draw : UInt32 → Nat) : (told p limit draws).next draw =
      (lastDelay ((p.start limit).answers (draws ++ [draw])), told p limit (draws ++ [draw])) := by
  have hcursor :
      (told p limit draws).cursor.getD (p.start limit) = (p.start limit).after draws := by
    cases draws <;> rfl
  have hlast : ((((p.start limit).after draws).next draw).1).getD (told p limit draws).last =
      lastDelay ((p.start limit).answers (draws ++ [draw])) := by
    rw [Cursor.answers_append, Cursor.answers, Cursor.answers, lastDelay_concat]
    rfl
  have hnonempty : (draws ++ [draw]).isEmpty = false := by simp
  have hpolicy : (told p limit draws).policy = p := rfl
  have hlimit : (told p limit draws).limit = limit := rfl
  unfold Repeating.next
  rw [hpolicy, hlimit, hcursor]
  simp only [hlast]
  simp [told, hnonempty, Cursor.after_concat]

/-- **A walk that repeats** knows what was asked of it since the last reset, and nothing else. -/
theorem run_eq (p : Policy) (limit : UInt32) (requests : List Request) :
    run p limit requests = told p limit (sinceReset requests) := by
  induction requests using List.reverseRecOn with
  | nil => rfl
  | append_singleton requests request ih =>
      have hrun : run p limit (requests ++ [request]) = (run p limit requests).perform request := by
        simp [run]
      rw [hrun, ih]
      cases request with
      | next draw =>
          have hsince : sinceReset (requests ++ [.next draw]) = sinceReset requests ++ [draw] := by
            simp [sinceReset]
          rw [hsince, perform, next_told]
      | reset =>
          have hsince : sinceReset (requests ++ [.reset]) = [] := by simp [sinceReset]
          rw [hsince]
          rfl

end Repeating

/-! ### All walks -/

/-- What can be said of the walks along a policy up to a limit. -/
structure Walks (p : Policy) (limit : UInt32) : Prop where
  /-- A walk passes on what the policy says, as often as the limit allows, and then stops. -/
  answers : ∀ draws, (p.start limit).answers draws =
    p.replies (draws.take limit.toNat) ++ List.replicate (draws.length - limit.toNat) none
  delays_le : ∀ draws, ((p.start limit).answers draws).reduceOption.length ≤ limit.toNat
  /-- Each request counts that is passed on to the policy. -/
  asked : ∀ draws, ((p.start limit).after draws).asked.toNat = min draws.length limit.toNat
  /-- The count is that of the delays and of the stops of the policy. -/
  asked_eq : ∀ draws, ((p.start limit).after draws).asked.toNat =
    ((p.start limit).answers draws).reduceOption.length +
      ((p.replies (draws.take limit.toNat)).filter Option.isNone).length
  /-- It is that of the delays just if the policy has not stopped. -/
  asked_eq_iff : ∀ draws, ((p.start limit).after draws).asked.toNat =
      ((p.start limit).answers draws).reduceOption.length ↔
    none ∉ p.replies (draws.take limit.toNat)
  /-- No delay comes after a stop just if the policy says none after it has stopped. -/
  stopsForGood_iff : ∀ draws, StopsForGood ((p.start limit).answers draws) ↔
    StopsForGood (p.replies (draws.take limit.toNat))
  /-- Both hold of every policy but a rule of one's own. -/
  never_stops : (∀ f, p ≠ .custom f) → ∀ draws, none ∉ p.replies draws
  /-- A walk that repeats answers the last delay since the last reset. -/
  repeats : ∀ requests draw, ((Repeating.run p limit requests).next draw).1 =
    lastDelay (p.replies ((Repeating.sinceReset requests ++ [draw]).take limit.toNat))
  /-- At its limit it repeats this delay for good. -/
  holds : ∀ requests draw, limit.toNat ≤ (Repeating.sinceReset requests).length →
    ((Repeating.run p limit requests).next draw).1 = (Repeating.run p limit requests).last
  /-- A reset lets it begin again. -/
  resets : ∀ requests, Repeating.run p limit (requests ++ [.reset]) = .new p limit

theorem lastDelay_answers (p : Policy) (limit : UInt32) (draws : List (UInt32 → Nat)) :
    lastDelay ((p.start limit).answers draws) = lastDelay (p.replies (draws.take limit.toNat)) := by
  rw [lastDelay, answers_start, reduceOption_append_replicate, lastDelay]

theorem asked_start (p : Policy) (limit : UInt32) (draws : List (UInt32 → Nat)) :
    ((p.start limit).after draws).asked.toNat = (p.replies (draws.take limit.toNat)).length := by
  obtain ⟨-, -, h⟩ := (p.start limit).after_eq (Nat.zero_le _) draws
  rw [h, length_replies, List.length_take, Policy.start, UInt32.toNat_zero, Nat.zero_add,
    Nat.min_comm]

/-- **Every walk** along every policy. -/
theorem walks_of_policy (p : Policy) (limit : UInt32) : Walks p limit where
  answers := answers_start p limit
  delays_le draws := by
    rw [answers_start, reduceOption_append_replicate]
    have := (p.replies (draws.take limit.toNat)).reduceOption_length_le
    rw [length_replies, List.length_take] at this
    omega
  asked draws := by
    rw [asked_start, length_replies, List.length_take, Nat.min_comm]
  asked_eq draws := by
    rw [asked_start, answers_start, reduceOption_append_replicate]
    exact List.length_eq_reduceOption_length_add_filter_none
  asked_eq_iff draws := by
    rw [asked_start, answers_start, reduceOption_append_replicate, eq_comm,
      List.reduceOption_length_eq_iff]
    simp only [Option.isSome_iff_ne_none]
    exact ⟨fun h hm => h none hm rfl, fun h a ha e => h (e ▸ ha)⟩
  stopsForGood_iff draws := by
    rw [answers_start, stopsForGood_append_replicate]
  never_stops := none_notMem_replies
  repeats requests draw := by
    rw [Repeating.run_eq, Repeating.next_told, lastDelay_answers]
  holds requests draw h := by
    rw [Repeating.run_eq, Repeating.next_told]
    change lastDelay ((p.start limit).answers _) = lastDelay ((p.start limit).answers _)
    rw [lastDelay_answers, lastDelay_answers, List.take_append_of_le_length h]
  resets requests := by
    rw [Repeating.run_eq, Repeating.sinceReset, List.foldl_append]
    rfl

/-! ### A policy that goes on after a stop -/

/-- A rule that stops after the first attempt and has a delay after the second. -/
def Policy.resuming : Policy := .custom fun n => if n = 2 then some 7 else .none

/-- A walk along a policy that goes on after a stop has a delay after it was told to stop, and has
counted an attempt for which there was no delay.  One that repeats does not hold what it had. -/
theorem answers_resuming :
    let draw : UInt32 → Nat := fun _ => 0
    let c := Policy.resuming.start 2
    c.answers [draw, draw, draw] = [none, some 7, none] ∧
      ¬ StopsForGood (c.answers [draw, draw, draw]) ∧
      (c.after [draw]).asked = 1 ∧ (c.answers [draw]).reduceOption = [] ∧
      ((Repeating.new Policy.resuming 2).next draw).1 = 0 ∧
      ((Repeating.run Policy.resuming 2 [.next draw]).next draw).1 = 7 := by
  decide

end Redelivery.Backoff
