import Mathlib.Algebra.Order.Floor.Div
import Mathlib.Tactic.NormNum
import Redelivery.DueWait.Script
import Redelivery.Proofs.DueWait.Course
import Redelivery.Worker

/-!
# DueWait — how many slices

A wait that no signal disturbs sleeps slice after slice and is over at the first of them whose end
the clock puts at the due time or later (`course_of_open`).  After each slice before that one, but
the first, the consumer shows that it is alive (`undisturbed`); if it refuses a call, the wait ends
with that error.

**Slices** (`timed_course`).  By a clock that goes on by one slice with each slice, the number of
slices is the time that is left, divided by their length and rounded up (`sliceCount`), so that the
wait is never over early and less than one slice late.  The member of a group that waits takes
nothing meanwhile: only its signs of life are counted.
-/

namespace Redelivery

/-- Nobody has requested a stop, and somebody still could. -/
structure Shutdown.IsOpen (s : Shutdown) : Prop where
  requested : s.requested = false
  abandoned : s.abandoned = false

theorem Shutdown.IsOpen.stops {s : Shutdown} (h : s.IsOpen) (seen : Nat) :
    s.stops seen = false := by
  unfold Shutdown.stops
  split
  · exact h.requested
  · exact h.abandoned

/-- The clock says that it is time. -/
def Waking.isDue (k : Waking) (due : Instant) : Bool := due.toInt ≤ k.now.toInt

namespace DueWait

variable {σ : Type} [Pausable σ]

/-- Has the consumer show up to `n` times that it is alive, until that is refused. -/
def showTimes (x : σ) : (n : Nat) → Except BrokerError Unit × σ
  | 0 => (.ok (), x)
  | n + 1 =>
      match Pausable.keepAlive x with
      | (.error e, y) => (.error e, y)
      | (.ok _, y) => showTimes y n

/-- A wait of a consumer that is paused already, in which it is to show `n` times that it is
alive; after that the record is due, or the wait goes on. -/
def rest (x : σ) (n : Nat) (isDue : Bool) : Option (Except BrokerError WaitOutcome) × σ :=
  match showTimes x n with
  | (.error e, y) => (some (finish (.error e) y).1, (finish (.error e) y).2)
  | (.ok _, y) =>
      if isDue then (some (finish (.ok .due) y).1, (finish (.ok .due) y).2) else (none, y)

/-- What comes of a wait that no signal disturbs. -/
def undisturbed (x : σ) (n : Nat) (isDue : Bool) : Option (Except BrokerError WaitOutcome) × σ :=
  match Pausable.pause x with
  | (.error e, y) => (some (.error e), y)
  | (.ok _, y) => rest y n isDue

/-- The consumer refuses none of the calls of a wait. -/
structure Obliging (x : σ) : Prop where
  pause : (Pausable.pause x).1 = .ok ()
  showTimes : ∀ n, (showTimes (Pausable.pause x).2 n).1 = .ok ()
  resume : ∀ n, (Pausable.resume (DueWait.showTimes (Pausable.pause x).2 n).2).1 = .ok ()

/-- How long a slice is of a wait that begins at `now`. -/
def sliceLength (due now : Instant) : Nat := (sliceFor (due.since now)).toNat

/-- How many slices the time until `due` takes. -/
def sliceCount (due now : Instant) : Nat :=
  (due.toInt - now.toInt).toNat ⌈/⌉ sliceLength due now

/-- The first wakings by a clock that goes on by one slice with each slice, to a signal that stays
as it is. -/
def ticks (due now : Instant) (s : Shutdown) (count : Nat) : List Waking :=
  (List.range count).map fun i => ⟨reading now ((i + 1) * sliceLength due now), s, s.version⟩

/-! ### Any clock -/

/-- The wait ends at a waking to a clock that says that it is time. -/
theorem wake_of_isDue {w : DueWait} {k : Waking} (hk : k.shutdown.IsOpen)
    (hdue : k.isDue w.due = true) (x : σ) :
    w.wake k.now k.shutdown k.seen x =
      (some (finish (.ok .due) x).1, (finish (.ok .due) x).2) := by
  unfold wake
  rw [if_neg (by simp [hk.stops]), if_pos (of_decide_eq_true hdue)]

/-- At an earlier one the consumer shows that it is alive, but not after the first slice. -/
theorem wake_of_not_isDue {w : DueWait} {k : Waking} (hk : k.shutdown.IsOpen)
    (hdue : k.isDue w.due = false) (x : σ) :
    w.wake k.now k.shutdown k.seen x =
      match w.showAlive x with
      | (.error e, y) => (some (finish (.error e) y).1, (finish (.error e) y).2)
      | (.ok _, y) => (none, y) := by
  unfold wake
  rw [if_neg (by simp [hk.stops]), if_neg (of_decide_eq_false hdue)]
  rcases w.showAlive x with ⟨e | u, y⟩
  · rfl
  · simp [hk.requested]

/-- After the first slice a wait goes on as `rest` says, up to the first waking that is due. -/
theorem goOn_later {w : DueWait} (hw : w.isFirst = false) {ks : List Waking}
    (hks : ∀ k ∈ ks, k.shutdown.IsOpen) (x : σ) :
    w.goOn x ks = rest x (ks.findIdx (·.isDue w.due)) (ks.any (·.isDue w.due)) := by
  induction ks generalizing x with
  | nil => rfl
  | cons k ks ih =>
      have hk := hks k (List.mem_cons_self ..)
      cases hdue : k.isDue w.due with
      | true => simp [goOn, wake_of_isDue hk hdue, List.findIdx_cons, hdue, rest, showTimes]
      | false =>
          have hagain : w.again = w := by rw [again, ← hw]
          rw [goOn, wake_of_not_isDue hk hdue, showAlive, hw, if_neg Bool.false_ne_true,
            List.findIdx_cons, hdue, List.any_cons, hdue, Bool.false_or]
          simp only [cond_false, rest, showTimes]
          rcases Pausable.keepAlive x with ⟨e | u, y⟩
          · rfl
          · simp only [hagain]
            exact ih (fun k hk => hks k (List.mem_cons_of_mem _ hk)) y

/-- A whole wait after the consumer was paused. -/
theorem goOn_first {w : DueWait} (hw : w.isFirst = true) {ks : List Waking}
    (hks : ∀ k ∈ ks, k.shutdown.IsOpen) (x : σ) :
    w.goOn x ks = rest x (ks.findIdx (·.isDue w.due) - 1) (ks.any (·.isDue w.due)) := by
  cases ks with
  | nil => rfl
  | cons k ks =>
      have hk := hks k (List.mem_cons_self ..)
      cases hdue : k.isDue w.due with
      | true => simp [goOn, wake_of_isDue hk hdue, List.findIdx_cons, hdue, rest, showTimes]
      | false =>
          rw [goOn, wake_of_not_isDue hk hdue, showAlive, hw, if_pos rfl, List.findIdx_cons, hdue,
            List.any_cons, hdue, Bool.false_or, cond_false, Nat.add_sub_cancel]
          exact goOn_later (w := w.again) rfl (fun k hk => hks k (List.mem_cons_of_mem _ hk)) x

/-- A wait that does not begin too late pauses the consumer and sleeps. -/
theorem begin_of_lt {due now : Instant} (h : now.toInt < due.toInt) {s : Shutdown}
    (hs : s.IsOpen) (x : σ) :
    begin due now s x =
      match Pausable.pause x with
      | (.error e, y) => (.inr (.error e), y)
      | (.ok _, y) => (.inl ⟨due, sliceFor (due.since now), true⟩, y) := by
  have hlate : ¬ (due.since now).toInt ≤ 0 := by
    rw [since_le_zero_iff]
    omega
  unfold begin
  dsimp only
  rw [if_neg hlate, hs.requested]
  rcases Pausable.pause x with ⟨e | u, y⟩ <;> rfl

/-- **By any clock**, a wait that no signal disturbs is over at the first reading that is due. -/
theorem course_of_open {due now : Instant} (h : now.toInt < due.toInt) {s : Shutdown}
    (hs : s.IsOpen) (x : σ) {wakings : List Waking} (hw : ∀ k ∈ wakings, k.shutdown.IsOpen) :
    course due now s x wakings =
      undisturbed x (wakings.findIdx (·.isDue due) - 1) (wakings.any (·.isDue due)) := by
  rw [course, begin_of_lt h hs, undisturbed]
  rcases Pausable.pause x with ⟨e | u, y⟩
  · rfl
  · exact goOn_first rfl hw y

theorem fst_finish {result : Except BrokerError WaitOutcome} {x : σ}
    (h : (Pausable.resume x).1 = .ok ()) : (finish result x).1 = result := by
  unfold finish
  dsimp only
  rw [h]
  cases result <;> rfl

/-- A consumer that refuses no call waits until the record is due. -/
theorem Obliging.undisturbed {x : σ} (h : Obliging x) (n : Nat) :
    (undisturbed x n true).1 = some (.ok .due) ∧ (DueWait.undisturbed x n false).1 = none := by
  obtain ⟨hpause, hshow, hresume⟩ := h
  have hx : Pausable.pause x = (.ok (), (Pausable.pause x).2) := Prod.ext hpause rfl
  have hy : DueWait.showTimes (Pausable.pause x).2 n =
      (.ok (), (DueWait.showTimes (Pausable.pause x).2 n).2) := Prod.ext (hshow n) rfl
  constructor
  · rw [DueWait.undisturbed, hx]
    dsimp only
    rw [rest, hy]
    dsimp only
    rw [if_pos rfl, fst_finish (hresume n)]
  · rw [DueWait.undisturbed, hx]
    dsimp only
    rw [rest, hy]
    rfl

/-! ### A steady clock -/

theorem sliceFor_since (due now : Instant) :
    sliceFor (due.since now) = if 500 < due.toInt - now.toInt then 100 else 10 := by
  rw [sliceFor, shortWait, Instant.toInt_since, Int64.toInt_minValue, Int64.toInt_maxValue]
  refine if_congr ?_ rfl rfl
  omega

theorem sliceLength_eq (due now : Instant) :
    sliceLength due now = if 500 < due.toInt - now.toInt then 100 else 10 := by
  rw [sliceLength, sliceFor_since]
  split <;> rfl

theorem sliceLength_pos (due now : Instant) : 0 < sliceLength due now := by
  rw [sliceLength_eq]
  split <;> decide

variable {due now : Instant} {s : Shutdown}

/-- A clock is past the due time once it has gone on for as long as was left. -/
theorem le_reading_iff (due now : Instant) (elapsed : Nat) :
    due.toInt ≤ (reading now elapsed).toInt ↔ (due.toInt - now.toInt).toNat ≤ elapsed := by
  have h₁ := due.toInt_le
  have h₂ := now.le_toInt
  rw [reading, Instant.toInt_nearest, Int64.toInt_minValue, Int64.toInt_maxValue]
  rw [Int64.toInt_maxValue] at h₁
  omega

/-- So it is after some slices if these are as many as the time takes. -/
theorem le_reading_slices_iff (due now : Instant) (n : Nat) :
    due.toInt ≤ (reading now (n * sliceLength due now)).toInt ↔ sliceCount due now ≤ n := by
  rw [le_reading_iff, sliceCount, ceilDiv_le_iff_le_mul (sliceLength_pos due now), Nat.mul_comm]

theorem sliceCount_pos (h : now.toInt < due.toInt) : 0 < sliceCount due now := by
  have := (le_reading_slices_iff due now 0).not.mp (by rw [le_reading_iff]; omega)
  omega

/-- The slices last as long as the time that is left, and less than one slice longer. -/
theorem sliceCount_bounds (h : now.toInt < due.toInt) :
    due.toInt - now.toInt ≤ (sliceCount due now * sliceLength due now : Nat) ∧
      (sliceCount due now * sliceLength due now : Nat) <
        due.toInt - now.toInt + sliceLength due now := by
  have hpos := sliceCount_pos h
  have hdone := (le_reading_slices_iff due now (sliceCount due now)).mpr le_rfl
  have hbefore := (le_reading_slices_iff due now (sliceCount due now - 1)).not.mpr (by omega)
  rw [le_reading_iff] at hdone hbefore
  rw [Nat.sub_mul, Nat.one_mul] at hbefore
  have := Nat.le_mul_of_pos_left (sliceLength due now) hpos
  omega

theorem getElem_ticks {count i : Nat} (h : i < (ticks due now s count).length) :
    (ticks due now s count)[i].isDue due = decide (sliceCount due now ≤ i + 1) := by
  simp only [ticks, List.getElem_map, List.getElem_range, Waking.isDue]
  exact decide_eq_decide.mpr (le_reading_slices_iff due now (i + 1))

@[simp] theorem length_ticks (due now : Instant) (s : Shutdown) (count : Nat) :
    (ticks due now s count).length = count := by
  simp [ticks]

theorem isOpen_ticks (hs : s.IsOpen) (count : Nat) :
    ∀ k ∈ ticks due now s count, k.shutdown.IsOpen := by
  intro k hk
  obtain ⟨i, -, rfl⟩ := List.mem_map.mp hk
  exact hs

/-- Before the last slice is over the wait goes on. -/
theorem course_ticks_of_lt (h : now.toInt < due.toInt) (hs : s.IsOpen) (x : σ) {count : Nat}
    (hc : count < sliceCount due now) :
    course due now s x (ticks due now s count) = undisturbed x (count - 1) false := by
  have hnone : ∀ k ∈ ticks due now s count, k.isDue due = false := by
    intro k hk
    obtain ⟨i, hi, rfl⟩ := List.mem_iff_getElem.mp hk
    rw [getElem_ticks, decide_eq_false_iff_not]
    rw [length_ticks] at hi
    omega
  rw [course_of_open h hs x (isOpen_ticks hs count), List.findIdx_eq_length.mpr hnone,
    length_ticks, List.any_eq_false.mpr (by simpa using hnone)]

/-- Then it is over. -/
theorem course_ticks_of_le (h : now.toInt < due.toInt) (hs : s.IsOpen) (x : σ) {count : Nat}
    (hc : sliceCount due now ≤ count) :
    course due now s x (ticks due now s count) = undisturbed x (sliceCount due now - 2) true := by
  have hpos := sliceCount_pos h
  have hlt : sliceCount due now - 1 < (ticks due now s count).length := by
    rw [length_ticks]
    omega
  have hdue : (ticks due now s count)[sliceCount due now - 1].isDue due = true := by
    rw [getElem_ticks, decide_eq_true_iff]
    omega
  have hidx : (ticks due now s count).findIdx (·.isDue due) = sliceCount due now - 1 := by
    rw [List.findIdx_eq hlt]
    refine ⟨hdue, fun j hj => ?_⟩
    rw [getElem_ticks, decide_eq_false_iff_not]
    omega
  rw [course_of_open h hs x (isOpen_ticks hs count), hidx, Nat.sub_sub,
    List.any_eq_true.mpr ⟨_, List.getElem_mem hlt, hdue⟩]

/-! ### A consumer that takes note of its calls -/

/-- What a consumer has noted after `n` slices of a wait that is not over. -/
def noted (due now : Instant) (n : Nat) : ScriptedConsumer where
  elapsed := n * sliceLength due now
  calls := (.pause, 0) ::
    (List.range' 2 (n - 1)).map fun i => (.keepAlive, i * sliceLength due now)

/-- What it has noted when the wait is over: that it was paused, the signs of life after the slices
from the second to the one before the last, and that it was resumed. -/
def notedWhole (due now : Instant) : ScriptedConsumer where
  elapsed := sliceCount due now * sliceLength due now
  calls := (.pause, 0) ::
    ((List.range' 2 (sliceCount due now - 2)).map fun i => (.keepAlive, i * sliceLength due now)) ++
      [(.resume, sliceCount due now * sliceLength due now)]

/-- One more slice. -/
theorem wakeTime_of_open (w : DueWait) (hs : s.IsOpen) (elapsed : Nat) :
    w.wakeTime [] s elapsed = elapsed + w.slice.toNat := by
  unfold wakeTime
  rw [hs.abandoned]

theorem call_of_accepting {x : ScriptedConsumer} (h : x.refused = []) (c : WaitCall) :
    x.call c = (.ok (), { x with calls := x.calls ++ [(c, x.elapsed)] }) := by
  simp [ScriptedConsumer.call, h]

/-- At the end of a slice the wait is over, or it goes on. -/
theorem sleepOn_of_wake (hs : s.IsOpen) {w : DueWait} {x y : ScriptedConsumer}
    {a : Option (Except BrokerError WaitOutcome)} {elapsed : Nat}
    (he : elapsed = x.elapsed + w.slice.toNat)
    (h : w.wake (reading now elapsed) s s.version { x with elapsed } = (a, y)) (times : Nat) :
    sleepOn now w [] s x (times + 1) =
      if a.isSome then (a, y) else sleepOn now w.again [] s y times := by
  have htime : w.wakeTime [] s x.elapsed = elapsed := (wakeTime_of_open w hs _).trans he.symm
  rw [sleepOn, htime]
  simp only [List.takeWhile_nil, List.foldl_nil, List.dropWhile_nil, h]
  cases a <;> rfl

/-- The slices of a wait that go on from `n` of them. -/
theorem sleepOn_noted (hs : s.IsOpen) {n times : Nat} (hn : n < sliceCount due now)
    (ht : sliceCount due now ≤ n + times) :
    sleepOn now ⟨due, sliceFor (due.since now), decide (n = 0)⟩ [] s (noted due now n) times =
      (some (.ok .due), notedWhole due now) := by
  induction times generalizing n with
  | zero => omega
  | succ times ih =>
      let w : DueWait := ⟨due, sliceFor (due.since now), decide (n = 0)⟩
      let k : Waking := ⟨reading now ((n + 1) * sliceLength due now), s, s.version⟩
      let x : ScriptedConsumer := { noted due now n with elapsed := (n + 1) * sliceLength due now }
      have hk : k.shutdown.IsOpen := hs
      have hdue : k.isDue w.due = decide (sliceCount due now ≤ n + 1) :=
        decide_eq_decide.mpr (le_reading_slices_iff due now (n + 1))
      have helapsed : (n + 1) * sliceLength due now = (noted due now n).elapsed + w.slice.toNat :=
        Nat.succ_mul ..
      rcases Nat.lt_or_ge (n + 1) (sliceCount due now) with hlt | hge
      · -- the consumer shows that it is alive, but not after the first slice
        have hshow : w.showAlive x = (.ok (), noted due now (n + 1)) := by
          cases n with
          | zero => rfl
          | succ n =>
              have hlog : List.range' 2 (n + 1) = List.range' 2 n ++ [n + 2] := by
                rw [List.range'_1_concat, Nat.add_comm 2]
              rw [showAlive, if_neg (by simp [w])]
              refine (call_of_accepting rfl .keepAlive).trans ?_
              simp [x, noted, hlog]
        have hwake := wake_of_not_isDue hk (hdue.trans (decide_eq_false (by omega))) x
        rw [hshow] at hwake
        exact (sleepOn_of_wake hs helapsed hwake times).trans (ih hlt (by omega))
      · have hlast : sliceCount due now = n + 1 := by omega
        have hresume : Pausable.resume x = (.ok (), notedWhole due now) := by
          refine (call_of_accepting rfl .resume).trans ?_
          simp [x, noted, notedWhole, hlast]
        have hwake := wake_of_isDue hk (hdue.trans (decide_eq_true hge)) x
        rw [snd_finish, fst_finish (congrArg Prod.fst hresume), hresume] at hwake
        exact sleepOn_of_wake hs helapsed hwake times

/-- **A whole wait**, call by call. -/
theorem run_of_open (h : now.toInt < due.toInt) (hs : s.IsOpen) :
    run due now [] s {} = (some (.ok .due), notedWhole due now) := by
  have hbegin : begin due now s ({} : ScriptedConsumer) =
      (.inl ⟨due, sliceFor (due.since now), true⟩, noted due now 0) := by
    rw [begin_of_lt h hs]
    simp [Pausable.pause, ScriptedConsumer.call, noted]
  -- the wakings that are allowed for are more than one for each millisecond
  have hbound : sliceCount due now ≤ wakeBound due now [] := by
    obtain ⟨-, hlt⟩ := sliceCount_bounds h
    have hlen := sliceLength_eq due now
    have h₁ := due.toInt_le
    have h₂ := now.le_toInt
    rw [Int64.toInt_maxValue] at h₁
    rw [wakeBound, Instant.toInt_since, Int64.toInt_minValue, Int64.toInt_maxValue]
    simp only [List.length_nil]
    split at hlen <;> rw [hlen] at hlt <;> omega
  rw [run, hbegin]
  exact sleepOn_noted hs (sliceCount_pos h) (by omega)

/-! ### A member of a group -/

theorem showTimes_member (m : Membership) (n : Nat) :
    showTimes m n =
      (.ok (), { m with broker := { m.broker with keepAlives := m.broker.keepAlives + n } }) := by
  induction n generalizing m with
  | zero => rfl
  | succ n ih =>
      rw [showTimes]
      refine (ih m.keepAlive).trans ?_
      simp only [Membership.keepAlive, Nat.add_assoc, Nat.add_comm 1]

theorem obliging_member (m : Membership) : Obliging m where
  pause := rfl
  showTimes n := by rw [showTimes_member]
  resume _ := rfl

/-- A member that has waited has taken nothing. -/
theorem undisturbed_member (m : Membership) (n : Nat) :
    undisturbed m n true = (some (.ok .due),
      { consumer := { m.consumer with paused := false }
        broker :=
          { m.broker with
            keepAlives := m.broker.keepAlives + n
            notices := m.broker.notices + 1 } }) := by
  have hpause : Pausable.pause m = (.ok (), m.pause) := rfl
  rw [undisturbed, hpause]
  dsimp only
  rw [rest, showTimes_member]
  rfl

/-! ### All waits -/

/-- What can be said of how long a wait takes that no signal disturbs. -/
structure Timed (due now : Instant) : Prop where
  slice : sliceFor (due.since now) = if 500 < due.toInt - now.toInt then 100 else 10
  /-- Nothing is asked of a consumer whose record is due already. -/
  atOnce : due.toInt ≤ now.toInt →
    (∀ {σ : Type} [Pausable σ] (s : Shutdown) (x : σ) (wakings : List Waking),
      course due now s x wakings = (some (.ok .due), x)) ∧
    ∀ (changes : List (Nat × SignalChange)) (s : Shutdown) (x : ScriptedConsumer),
      run due now changes s x = (some (.ok .due), x)
  /-- By any clock the wait is over at the first reading that is due.  After each slice before it,
  but the first, the consumer is to show that it is alive. -/
  anyClock : now.toInt < due.toInt → ∀ {σ : Type} [Pausable σ] {s : Shutdown} (x : σ)
    {wakings : List Waking}, s.IsOpen → (∀ k ∈ wakings, k.shutdown.IsOpen) →
      course due now s x wakings =
        undisturbed x (wakings.findIdx (·.isDue due) - 1) (wakings.any (·.isDue due))
  /-- By a steady clock this is the reading after so many slices, and not before. -/
  steady : now.toInt < due.toInt → ∀ {σ : Type} [Pausable σ] {s : Shutdown} (x : σ) (count : Nat),
    s.IsOpen → course due now s x (ticks due now s count) =
      if count < sliceCount due now then undisturbed x (count - 1) false
      else undisturbed x (sliceCount due now - 2) true
  /-- So a wait is not over early, and less than a slice late. -/
  bounds : now.toInt < due.toInt →
    due.toInt - now.toInt ≤ (sliceCount due now * sliceLength due now : Nat) ∧
      (sliceCount due now * sliceLength due now : Nat) <
        due.toInt - now.toInt + sliceLength due now
  /-- Call by call, with their times. -/
  calls : now.toInt < due.toInt → ∀ {s : Shutdown}, s.IsOpen →
    run due now [] s {} = (some (.ok .due), notedWhole due now)
  /-- With a consumer that refuses no call, a wait that is over is over because the record is
  due. -/
  obliging : ∀ {σ : Type} [Pausable σ] (x : σ) (n : Nat), Obliging x →
    (undisturbed x n true).1 = some (.ok .due) ∧ (undisturbed x n false).1 = none
  /-- A member of a group refuses none, and is handed nothing. -/
  member : ∀ (m : Membership) (n : Nat), Obliging m ∧
    undisturbed m n true = (some (.ok .due),
      { consumer := { m.consumer with paused := false }
        broker :=
          { m.broker with
            keepAlives := m.broker.keepAlives + n
            notices := m.broker.notices + 1 } })

/-- **How long** every wait takes. -/
theorem timed_course (due now : Instant) : Timed due now where
  slice := sliceFor_since due now
  atOnce h := by
    have hbegin : ∀ {σ : Type} [Pausable σ] (s : Shutdown) (x : σ),
        begin due now s x = (.inr (.ok .due), x) := by
      intro σ _ s x
      rw [begin, if_pos ((since_le_zero_iff due now).mpr h)]
    exact ⟨fun s x wakings => by rw [course, hbegin], fun changes s x => by rw [run, hbegin]⟩
  anyClock h _ _ _ x _ hs hw := course_of_open h hs x hw
  steady h _ _ _ x count hs := by
    split
    · rename_i hc
      exact course_ticks_of_lt h hs x hc
    · rename_i hc
      exact course_ticks_of_le h hs x (Nat.le_of_not_lt hc)
  bounds := sliceCount_bounds
  calls h _ hs := run_of_open h hs
  obliging _ n h := h.undisturbed n
  member m n := ⟨obliging_member m, undisturbed_member m n⟩

/-- A wait of 25 milliseconds has three slices, with a sign of life after the second; one for a time
that has come asks nothing of the consumer. -/
theorem timed_course_briefly :
    (0 : Instant).toInt < (25 : Instant).toInt ∧ Shutdown.IsOpen {} ∧
      sliceFor ((25 : Instant).since 0) = 10 ∧ sliceCount 25 0 = 3 ∧
      run 25 0 [] {} {} = (some (.ok .due),
        { elapsed := 30, calls := [(.pause, 0), (.keepAlive, 20), (.resume, 30)] }) ∧
      (∀ m : Membership, course 25 0 {} m (ticks 25 0 {} 3) = undisturbed m 1 true ∧
        (undisturbed m 1 true).1 = some (.ok .due)) ∧
      run 0 0 [] {} {} = (some (.ok .due), {}) := by
  have h : (0 : Instant).toInt < (25 : Instant).toInt := by decide
  have hs : Shutdown.IsOpen {} := ⟨rfl, rfl⟩
  have hcount : sliceCount 25 0 = 3 := by decide
  have htimed := timed_course 25 0
  refine ⟨h, hs, htimed.slice, hcount, htimed.calls h hs, fun m => ⟨?_, ?_⟩,
    ((timed_course 0 0).atOnce le_rfl).2 [] {} {}⟩
  · have hticks := htimed.steady h m 3 hs
    rwa [hcount, if_neg (lt_irrefl 3)] at hticks
  · exact (htimed.obliging m 1 (htimed.member m 1).1).1

/-- A wait of half a second has fifty slices, and one of a millisecond more has six. -/
example : sliceCount 500 0 = 50 ∧ sliceCount 501 0 = 6 := by decide

end DueWait

end Redelivery
