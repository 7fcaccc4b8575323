import Redelivery.DueWait

/-!
# DueWait — the course of a wait

A wait begins, and then it wakes any number of times, each time to what the clock and the signal
say by then (`DueWait.course`).  Nothing is assumed of the consumer: it may refuse to be paused, to
be resumed or to show that it is alive.

**Ends** (`tidy_course`).  A wait does nothing to a consumer whose record is due already.  Else it
pauses the consumer and resumes it in the end, whatever the end is, and in between the consumer
shows that it is alive and is asked for nothing else (`Paused`, `Leaves`).  A wait ends with the
record being due only after a reading of the clock that says so.
-/

namespace Redelivery

/-- What a wait wakes to. -/
structure Waking where
  now : Instant
  shutdown : Shutdown
  /-- How often the signal was set when the sleeper noticed it last. -/
  seen : Nat
  deriving Repr, DecidableEq

namespace DueWait

variable {σ : Type} [Pausable σ]

/-- What comes of a wait by some wakings: its end, unless it goes on, and the consumer. -/
def goOn (w : DueWait) (x : σ) : List Waking → Option (Except BrokerError WaitOutcome) × σ
  | [] => (none, x)
  | k :: ks =>
      match w.wake k.now k.shutdown k.seen x with
      | (some result, x) => (some result, x)
      | (none, x) => w.again.goOn x ks

/-- What comes of a whole wait by some wakings. -/
def course (due now : Instant) (s : Shutdown) (x : σ) (wakings : List Waking) :
    Option (Except BrokerError WaitOutcome) × σ :=
  match begin due now s x with
  | (.inr result, x) => (some result, x)
  | (.inl w, x) => w.goOn x wakings

/-- The consumer has been paused, and has only shown since that it is alive. -/
inductive Paused (x : σ) : σ → Prop where
  | pause {y : σ} (h : Pausable.pause x = (.ok (), y)) : Paused x y
  | keepAlive {y : σ} (h : Paused x y) : Paused x (Pausable.keepAlive y).2

/-- How a wait that has ended leaves the consumer. -/
inductive Leaves (due now : Instant) (x : σ) : Except BrokerError WaitOutcome → σ → Prop where
  /-- The record was due already. -/
  | untouched (h : due.toInt ≤ now.toInt) : Leaves due now x (.ok .due) x
  /-- The consumer could not be paused. -/
  | refused {e : BrokerError} {y : σ} (h : Pausable.pause x = (.error e, y)) :
      Leaves due now x (.error e) y
  | resumed {y : σ} {result : Except BrokerError WaitOutcome} (h : Paused x y) :
      Leaves due now x result (Pausable.resume y).2

/-- What can be said of a wait. -/
structure Tidy (due now : Instant) (s : Shutdown) (x : σ) (wakings : List Waking) : Prop where
  goesOn : ∀ y, course due now s x wakings = (none, y) → Paused x y
  leaves : ∀ result y, course due now s x wakings = (some result, y) → Leaves due now x result y
  /-- The clock has said that the record is due. -/
  isDue : ∀ y, course due now s x wakings = (some (.ok .due), y) →
    due.toInt ≤ now.toInt ∨ ∃ k ∈ wakings, due.toInt ≤ k.now.toInt
  /-- A stop was requested, or nobody is left who could request it. -/
  interrupted : ∀ y, course due now s x wakings = (some (.ok .interrupted), y) →
    s.requested = true ∨
      ∃ k ∈ wakings, k.shutdown.stops k.seen = true ∨ k.shutdown.requested = true
  /-- A consumer that can be paused and resumed is not paused in the end. -/
  resumed : (∀ x : σ, (Pausable.pause x).1 = .ok ()) →
    ∀ isPaused : σ → Prop, (∀ x, ¬ isPaused (Pausable.resume x).2) → ¬ isPaused x →
    ∀ result y, course due now s x wakings = (some result, y) → ¬ isPaused y

/-! ### Single steps -/

theorem since_le_zero_iff (due now : Instant) :
    (due.since now).toInt ≤ 0 ↔ due.toInt ≤ now.toInt := by
  rw [Instant.toInt_since, Int64.toInt_minValue, Int64.toInt_maxValue]
  omega

theorem snd_finish (result : Except BrokerError WaitOutcome) (x : σ) :
    (finish result x).2 = (Pausable.resume x).2 := by
  unfold finish
  dsimp only
  split <;> rfl

/-- An outcome that is reported is the one that the wait had. -/
theorem of_finish_eq_ok {result : Except BrokerError WaitOutcome} {x : σ} {outcome : WaitOutcome}
    (h : (finish result x).1 = .ok outcome) : result = .ok outcome := by
  unfold finish at h
  dsimp only at h
  split at h
  · cases h
  · exact h

/-- How a wait begins. -/
theorem begin_cases (due now : Instant) (s : Shutdown) (x : σ) :
    (due.toInt ≤ now.toInt ∧ begin due now s x = (.inr (.ok .due), x)) ∨
    (∃ e y, Pausable.pause x = (.error e, y) ∧ begin due now s x = (.inr (.error e), y)) ∨
    (∃ y, Pausable.pause x = (.ok (), y) ∧ s.requested = true ∧
      begin due now s x = (.inr (finish (.ok .interrupted) y).1, (Pausable.resume y).2)) ∨
    ∃ y w, Pausable.pause x = (.ok (), y) ∧ w.due = due ∧ begin due now s x = (.inl w, y) := by
  unfold begin
  dsimp only
  split
  · rename_i hle
    exact .inl ⟨(since_le_zero_iff due now).mp hle, rfl⟩
  · split
    · rename_i e y hpause
      exact .inr (.inl ⟨e, y, hpause, rfl⟩)
    · rename_i y hpause
      split
      · rename_i hrequested
        exact .inr (.inr (.inl ⟨y, hpause, hrequested, by rw [snd_finish]⟩))
      · exact .inr (.inr (.inr ⟨y, _, hpause, rfl, rfl⟩))

/-- How a wait wakes: the consumer may have shown that it is alive, and then the wait ends or goes
on. -/
theorem wake_cases (w : DueWait) (now : Instant) (s : Shutdown) (seen : Nat) (x : σ) :
    ∃ y, (y = x ∨ y = (Pausable.keepAlive x).2) ∧
      (w.wake now s seen x = (none, y) ∨
        ∃ result, w.wake now s seen x =
            (some (finish result y).1, (Pausable.resume y).2) ∧
          (result = .ok .due → w.due.toInt ≤ now.toInt) ∧
          (result = .ok .interrupted → s.stops seen = true ∨ s.requested = true)) := by
  have halive : (w.showAlive x).2 = x ∨ (w.showAlive x).2 = (Pausable.keepAlive x).2 := by
    unfold showAlive
    split
    · exact .inl rfl
    · exact .inr rfl
  unfold wake
  dsimp only
  split
  · rename_i hstops
    exact ⟨x, .inl rfl, .inr ⟨.ok .interrupted, by rw [snd_finish], by simp, fun _ => .inl hstops⟩⟩
  · split
    · rename_i hdue
      exact ⟨x, .inl rfl, .inr ⟨.ok .due, by rw [snd_finish], fun _ => hdue, by simp⟩⟩
    · split
      · rename_i e y hshow
        rw [hshow] at halive
        exact ⟨y, halive, .inr ⟨.error e, by rw [snd_finish], by simp, by simp⟩⟩
      · rename_i y hshow
        rw [hshow] at halive
        refine ⟨y, halive, ?_⟩
        split
        · rename_i hrequested
          exact .inr ⟨.ok .interrupted, by rw [snd_finish], by simp, fun _ => .inr hrequested⟩
        · exact .inl rfl

theorem Paused.showsAlive {x y z : σ} (h : Paused x y)
    (hz : z = y ∨ z = (Pausable.keepAlive y).2) : Paused x z := by
  rcases hz with rfl | rfl
  · exact h
  · exact .keepAlive h

/-! ### Whole waits -/

/-- A wait that goes on from a consumer that has been paused. -/
theorem tidy_goOn (due now : Instant) {x y : σ} (h : Paused x y) (w : DueWait)
    (ks : List Waking) :
    (∀ z, w.goOn y ks = (none, z) → Paused x z) ∧
    (∀ result z, w.goOn y ks = (some result, z) → Leaves due now x result z) ∧
    (∀ z, w.goOn y ks = (some (.ok .due), z) → ∃ k ∈ ks, w.due.toInt ≤ k.now.toInt) ∧
    ∀ z, w.goOn y ks = (some (.ok .interrupted), z) →
      ∃ k ∈ ks, k.shutdown.stops k.seen = true ∨ k.shutdown.requested = true := by
  induction ks generalizing w y with
  | nil =>
      simp only [goOn]
      refine ⟨fun z hz => ?_, by simp, by simp, by simp⟩
      obtain ⟨-, rfl⟩ := Prod.mk.inj hz
      exact h
  | cons k ks ih =>
      obtain ⟨y', hy', hwake | ⟨result, hwake, hdue, hint⟩⟩ :=
        w.wake_cases k.now k.shutdown k.seen y
      · -- the wait goes on with the same due time
        obtain ⟨hgoes, hleaves, hdue, hint⟩ := ih (h.showsAlive hy') w.again
        have heq : w.goOn y (k :: ks) = w.again.goOn y' ks := by rw [goOn, hwake]
        rw [heq]
        refine ⟨hgoes, hleaves, fun z hz => ?_, fun z hz => ?_⟩
        · obtain ⟨k', hk', hle⟩ := hdue z hz
          exact ⟨k', List.mem_cons_of_mem _ hk', hle⟩
        · obtain ⟨k', hk', hstop⟩ := hint z hz
          exact ⟨k', List.mem_cons_of_mem _ hk', hstop⟩
      · have heq : w.goOn y (k :: ks) = (some (finish result y').1, (Pausable.resume y').2) := by
          rw [goOn, hwake]
        rw [heq]
        refine ⟨by simp, fun result' z hz => ?_, fun z hz => ?_, fun z hz => ?_⟩
        · obtain ⟨-, rfl⟩ := Prod.mk.inj hz
          exact .resumed (h.showsAlive hy')
        · have hout := of_finish_eq_ok (Option.some.inj (Prod.mk.inj hz).1)
          exact ⟨k, List.mem_cons_self .., hdue hout⟩
        · have hout := of_finish_eq_ok (Option.some.inj (Prod.mk.inj hz).1)
          exact ⟨k, List.mem_cons_self .., hint hout⟩

/-- A wait leaves a consumer that can be paused and resumed as one that takes records. -/
theorem Leaves.not_paused {due now : Instant} {x y : σ} {result : Except BrokerError WaitOutcome}
    (h : Leaves due now x result y) (hpause : ∀ x : σ, (Pausable.pause x).1 = .ok ())
    {isPaused : σ → Prop} (hresume : ∀ x, ¬ isPaused (Pausable.resume x).2)
    (hx : ¬ isPaused x) : ¬ isPaused y := by
  cases h with
  | untouched _ => exact hx
  | refused h =>
      have hok := hpause x
      rw [h] at hok
      cases hok
  | resumed _ => exact hresume _

/-- That a consumer is left resumed follows from how it is left. -/
theorem Tidy.of_leaves {due now : Instant} {s : Shutdown} {x : σ} {wakings : List Waking}
    (goesOn : ∀ y, course due now s x wakings = (none, y) → Paused x y)
    (leaves : ∀ result y, course due now s x wakings = (some result, y) →
      Leaves due now x result y)
    (isDue : ∀ y, course due now s x wakings = (some (.ok .due), y) →
      due.toInt ≤ now.toInt ∨ ∃ k ∈ wakings, due.toInt ≤ k.now.toInt)
    (interrupted : ∀ y, course due now s x wakings = (some (.ok .interrupted), y) →
      s.requested = true ∨
        ∃ k ∈ wakings, k.shutdown.stops k.seen = true ∨ k.shutdown.requested = true) :
    Tidy due now s x wakings where
  goesOn := goesOn
  leaves := leaves
  isDue := isDue
  interrupted := interrupted
  resumed hpause _ hresume hx result y h := (leaves result y h).not_paused hpause hresume hx

/-- **Every wait**, of whatever consumer and by whatever wakings, is tidy. -/
theorem tidy_course (due now : Instant) (s : Shutdown) (x : σ) (wakings : List Waking) :
    Tidy due now s x wakings := by
  rcases begin_cases due now s x with ⟨hle, h⟩ | ⟨e, y, hpause, h⟩ |
    ⟨y, hpause, hrequested, h⟩ | ⟨y, w, hpause, rfl, h⟩
  · have hcourse : course due now s x wakings = (some (.ok .due), x) := by rw [course, h]
    apply Tidy.of_leaves <;> rw [hcourse]
    · simp
    · rintro result y hz
      obtain ⟨hres, rfl⟩ := Prod.mk.inj hz
      exact Option.some.inj hres ▸ .untouched hle
    · exact fun _ _ => .inl hle
    · simp
  · have hcourse : course due now s x wakings = (some (.error e), y) := by rw [course, h]
    apply Tidy.of_leaves <;> rw [hcourse]
    · simp
    · rintro result z hz
      obtain ⟨hres, rfl⟩ := Prod.mk.inj hz
      exact Option.some.inj hres ▸ .refused hpause
    · simp
    · simp
  · have hcourse : course due now s x wakings =
        (some (finish (.ok .interrupted) y).1, (Pausable.resume y).2) := by rw [course, h]
    apply Tidy.of_leaves <;> rw [hcourse]
    · simp
    · rintro result z hz
      obtain ⟨-, rfl⟩ := Prod.mk.inj hz
      exact .resumed (.pause hpause)
    · intro z hz
      have hout := of_finish_eq_ok (Option.some.inj (Prod.mk.inj hz).1)
      cases hout
    · exact fun _ _ => .inl hrequested
  · have hcourse : course w.due now s x wakings = w.goOn y wakings := by rw [course, h]
    obtain ⟨hgoes, hleaves, hdue, hint⟩ :=
      tidy_goOn w.due now (.pause hpause) w wakings
    apply Tidy.of_leaves <;> rw [hcourse]
    · exact hgoes
    · exact hleaves
    · exact fun z hz => .inr (hdue z hz)
    · exact fun z hz => .inr (hint z hz)

end DueWait

end Redelivery
