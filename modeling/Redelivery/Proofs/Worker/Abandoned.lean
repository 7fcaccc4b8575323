import Redelivery.DueWait.Script
import Redelivery.Proofs.Container.Posts
import Redelivery.Proofs.Worker.Waits

/-!
# Worker — signals that nobody can set any more

A worker that was never told to stop should go on.  It does so as long as somebody could tell it.  A
signal that is abandoned, however, means different things to a worker.  One that polls goes back to
the top and looks for a record again.  One that is asleep, because its record is not due or because
it pauses after a record that it gave back, takes it for a stop (`Worker.isForsaken`), unless it has
yet to notice that the signal was set before it was abandoned.

**Leaving** (`persists_of_staying`).  Of the workers that were never told to stop those leave their
loop that were forsaken at one of their steps, and no others.  A wait is interrupted just in the
steps in which a worker is forsaken that waits.  Whoever has begun to leave is gone two steps later.

The steps of a run are any steps, and between two of them the broker may have changed in any way
(`Moment`).
-/

namespace Redelivery

/-- What a worker finds when it makes a step. -/
structure Moment where
  surroundings : Surroundings
  broker : Broker

/-- A stop is not requested at the moment. -/
def Moment.Unasked (k : Moment) : Prop := k.surroundings.shutdown.requested = false

instance (k : Moment) : Decidable k.Unasked :=
  inferInstanceAs (Decidable (k.surroundings.shutdown.requested = false))

namespace Phase

/-- Whether the worker has left its loop, or will whatever happens. -/
def isLeaving : Phase → Bool
  | .returning _ .interrupted | .closing | .stopped => true
  | _ => false

/-- Whether the worker sleeps until a record is due, or before records are taken again. -/
def isAsleep : Phase → Bool
  | .waiting .. | .pausing _ => true
  | _ => false

end Phase

theorem Shutdown.stops_of_not_requested {s : Shutdown} (h : s.requested = false) (seen : Nat) :
    s.stops seen = (s.abandoned && !s.isNewer seen) := by
  unfold stops
  cases s.isNewer seen
  · simp
  · simp [h]

namespace Worker

/-- Whether the worker wakes to a signal that nobody can set any more, and that was not set since
the worker noticed it last. -/
def isForsaken (w : Worker) (s : Surroundings) : Bool :=
  w.phase.isAsleep && (s.shutdown.abandoned && !s.shutdown.isNewer w.seenSignal)

/-- The worker after its steps at moments that follow each other. -/
def after (w : Worker) (ks : List Moment) : Worker :=
  ks.foldl (fun w k => (w.step k.surroundings k.broker).worker) w

/-- How a worker goes on that is never told to stop. -/
structure Persists (w : Worker) : Prop where
  /-- It stays in its loop as long as there is somebody who could tell it. -/
  stays : ∀ ks : List Moment, (∀ k ∈ ks, k.Unasked ∧ k.surroundings.shutdown.abandoned = false) →
    (w.after ks).phase.isLeaving = false
  /-- Else it leaves if it is forsaken, and only then. -/
  leaves_iff : ∀ ks : List Moment, (∀ k ∈ ks, k.Unasked) →
    ((w.after ks).phase.isLeaving = true ↔
      ∃ pre k, pre ++ [k] <+: ks ∧ (w.after pre).isForsaken k.surroundings = true)
  /-- The same goes for its waits. -/
  interrupted_iff : ∀ (ks : List Moment) (k : Moment), k.Unasked →
    ((∃ r state, (w.after ks).waitEnd? k.surroundings k.broker =
        some (r, state, .ok .interrupted)) ↔
      (w.after ks).phase.isWaiting = true ∧ (w.after ks).isForsaken k.surroundings = true)
  gone : ∀ ks : List Moment, (w.after ks).phase.isLeaving = true →
    ∀ k k' : Moment, (w.after (ks ++ [k, k'])).phase = .stopped

variable {w : Worker} {s : Surroundings} {b : Broker} {r : Record}

/-! ### Single steps -/

theorem Decides.isLeaving {p : Phase} {events : List WorkerEvent} (h : w.Decides s r p events) :
    p.isLeaving = false := by
  cases h <;> rfl

theorem isForsaken_of_awake (h : w.phase.isAsleep = false) : w.isForsaken s = false := by
  rw [isForsaken, h, Bool.false_and]

/-- A worker that sleeps and is not told to stop stops just when it is forsaken. -/
theorem isForsaken_of_asleep (h : w.phase.isAsleep = true) (hs : s.shutdown.requested = false) :
    w.isForsaken s = s.shutdown.stops w.seenSignal := by
  rw [isForsaken, h, Bool.true_and, Shutdown.stops_of_not_requested hs]

/-- A worker that sleeps on was not forsaken. -/
theorem isForsaken_of_not_isReady (h : w.isReady s b = false) : w.isForsaken s = false := by
  rw [isForsaken]
  cases hp : w.phase with
  | waiting r state wait wakeAt | pausing wakeAt =>
      simp only [isReady, hp, Shutdown.wakes, Bool.or_eq_false_iff] at h
      rw [h.1.2, Bool.false_and, Bool.and_false]
  | _ => rfl

theorem isLeaving_polling (deadline : Nat) (seen : Option Nat) (m : Membership) :
    (w.stepPolling s m deadline seen).worker.phase.isLeaving = false := by
  unfold stepPolling
  repeat' split
  all_goals rfl

theorem isLeaving_publishing (copy : Outgoing) (more : Nat) (m : Membership) :
    (w.stepPublishing s m r copy more).worker.phase.isLeaving = false := by
  unfold stepPublishing
  dsimp only [continueWith]
  repeat' split
  all_goals rfl

theorem isLeaving_opening (hs : s.shutdown.requested = false) (hp : w.phase = .opening r) :
    (w.stepOpening s (w.membership b) r).worker.phase.isLeaving = false := by
  unfold stepOpening
  split
  · rename_i violation hstate
    exact (decides_reject hp hstate).isLeaving
  · rename_i state _
    split
    · rfl
    · rename_i due _
      rcases DueWait.begin_cases due s.clock.now s.shutdown (w.membership b) with
        ⟨-, h⟩ | ⟨e, y, hpause, -⟩ | ⟨y, -, hrequested, -⟩ | ⟨y, wait, -, -, h⟩
      · rw [h]
        rfl
      · cases hpause
      · rw [hs] at hrequested
        cases hrequested
      · rw [h]
        rfl

theorem isLeaving_waiting {state : RetryState} {wait : DueWait} {wakeAt : Nat}
    (hs : s.shutdown.requested = false) (hp : w.phase = .waiting r state wait wakeAt) :
    (w.stepWaiting s (w.membership b) r state wait).worker.phase.isLeaving = w.isForsaken s := by
  have hwake := DueWait.fst_wake hs wait s.clock.now w.seenSignal (w.membership b)
  rw [isForsaken_of_asleep (by rw [hp]; rfl) hs]
  unfold stepWaiting
  dsimp only
  split
  · rename_i result m h
    rw [h] at hwake
    cases hstops : s.shutdown.stops w.seenSignal with
    | true =>
        rw [hstops, if_pos rfl] at hwake
        obtain rfl := Option.some.inj hwake
        rfl
    | false =>
        rw [hstops, if_neg Bool.false_ne_true] at hwake
        split at hwake
        · obtain rfl := Option.some.inj hwake
          rfl
        · cases hwake
  · rename_i m h
    rw [h] at hwake
    cases hstops : s.shutdown.stops w.seenSignal with
    | true =>
        rw [hstops, if_pos rfl] at hwake
        cases hwake
    | false => rfl

theorem isLeaving_pausing {wakeAt : Nat} (hs : s.shutdown.requested = false)
    (hp : w.phase = .pausing wakeAt) :
    (w.stepPausing s (w.membership b)).worker.phase.isLeaving = w.isForsaken s := by
  rw [isForsaken_of_asleep (by rw [hp]; rfl) hs]
  unfold stepPausing
  dsimp only [continueWith]
  cases hstops : s.shutdown.stops w.seenSignal with
  | true =>
      rw [Shutdown.wakes_of_stops hstops]
      rfl
  | false =>
      rw [hs]
      cases s.shutdown.wakes w.seenSignal <;> rfl

/-- **One step**, of a worker that has not begun to leave and is not told to stop. -/
theorem isLeaving_step (hw : w.phase.isLeaving = false) (hs : s.shutdown.requested = false) :
    (w.step s b).worker.phase.isLeaving = w.isForsaken s := by
  unfold step
  dsimp only
  split
  · rename_i hready
    rw [isForsaken_of_not_isReady (b := b) (by simpa using hready)]
    exact hw
  · cases hp : w.phase with
    | waiting r state wait wakeAt => exact isLeaving_waiting hs hp
    | pausing wakeAt => exact isLeaving_pausing hs hp
    | closing | stopped =>
        rw [hp] at hw
        cases hw
    | returning r why =>
        rw [isForsaken_of_awake (by rw [hp]; rfl)]
        rw [hp] at hw
        cases why <;> first | rfl | cases hw
    | polling deadline seen =>
        rw [isForsaken_of_awake (by rw [hp]; rfl)]
        exact isLeaving_polling deadline seen _
    | opening r =>
        rw [isForsaken_of_awake (by rw [hp]; rfl)]
        exact isLeaving_opening hs hp
    | handling r state =>
        rw [isForsaken_of_awake (by rw [hp]; rfl)]
        exact (w.decides_handling (s := s) hp).isLeaving
    | publishing r copy more =>
        rw [isForsaken_of_awake (by rw [hp]; rfl)]
        exact isLeaving_publishing copy more _
    | idle =>
        rw [isForsaken_of_awake (by rw [hp]; rfl)]
        simp only [continueWith, stepIdle, hs]
        rfl
    | committing r =>
        rw [isForsaken_of_awake (by rw [hp]; rfl)]
        rfl

theorem step_of_isClosed (hw : w.phase = .closing ∨ w.phase = .stopped) :
    (w.step s b).worker.phase = .stopped := by
  rcases hw with hp | hp
  · simp only [step, isReady, hp]
    rfl
  · simp only [step, isReady, hp]
    exact hp

/-- Whoever has begun to leave closes its consumer next, if it has not done so. -/
theorem step_of_isLeaving (hw : w.phase.isLeaving = true) :
    (w.step s b).worker.phase = .closing ∨ (w.step s b).worker.phase = .stopped := by
  cases hp : w.phase with
  | returning r why =>
      rw [hp] at hw
      cases why with
      | interrupted =>
          rw [step_returning hp]
          exact .inl rfl
      | _ => cases hw
  | closing => exact .inr (step_of_isClosed (.inl hp))
  | stopped => exact .inr (step_of_isClosed (.inr hp))
  | _ =>
      rw [hp] at hw
      cases hw

theorem isLeaving_step_of_isLeaving (hw : w.phase.isLeaving = true) :
    (w.step s b).worker.phase.isLeaving = true := by
  rcases step_of_isLeaving (s := s) (b := b) hw with h | h <;> rw [h] <;> rfl

/-- **The waits** of workers that are not told to stop. -/
theorem waitEnd?_eq_interrupted_iff (hs : s.shutdown.requested = false) :
    (∃ r state, w.waitEnd? s b = some (r, state, .ok .interrupted)) ↔
      w.phase.isWaiting = true ∧ w.isForsaken s = true := by
  constructor
  · rintro ⟨r, state, h⟩
    have hleaving : (w.step s b).worker.phase.isLeaving = true := by
      rw [phase_of_waitEnd? h]
      rfl
    cases hp : w.phase with
    | opening r =>
        -- nobody is forsaken who has only now opened a record
        rw [isLeaving_step (by rw [hp]; rfl) hs, isForsaken, hp] at hleaving
        cases hleaving
    | waiting r state wait wakeAt =>
        rw [isLeaving_step (by rw [hp]; rfl) hs] at hleaving
        exact ⟨rfl, hleaving⟩
    | _ => simp [waitEnd?, hp] at h
  · rintro ⟨hwaiting, hforsaken⟩
    cases hp : w.phase with
    | waiting r state wait wakeAt =>
        have hstops := (isForsaken_of_asleep (by rw [hp]; rfl) hs).symm.trans hforsaken
        have hready : w.isReady s b = true := by
          simp only [isReady, hp, Shutdown.wakes_of_stops hstops, Bool.true_or]
        refine ⟨r, state, ?_⟩
        simp only [waitEnd?, hp, hready, if_true, DueWait.fst_wake hs, hstops, Option.map_some]
    | _ =>
        rw [hp] at hwaiting
        cases hwaiting

/-! ### Runs -/

theorem after_concat (w : Worker) (ks : List Moment) (k : Moment) :
    w.after (ks ++ [k]) = ((w.after ks).step k.surroundings k.broker).worker := by
  rw [after, List.foldl_append]
  rfl

theorem isLeaving_after_iff (hw : w.phase.isLeaving = false) (ks : List Moment)
    (hks : ∀ k ∈ ks, k.Unasked) :
    (w.after ks).phase.isLeaving = true ↔
      ∃ pre k, pre ++ [k] <+: ks ∧ (w.after pre).isForsaken k.surroundings = true := by
  induction ks using List.reverseRecOn with
  | nil =>
      constructor
      · intro h
        exact absurd h (by simp [after, hw])
      · rintro ⟨pre, k, hpre, -⟩
        simp at hpre
  | append_singleton ks k ih =>
      have ih := ih fun x hx => hks x (List.mem_append_left _ hx)
      have hk : k.Unasked := hks k (by simp)
      rw [after_concat]
      cases hleaving : (w.after ks).phase.isLeaving with
      | true =>
          -- it was forsaken before
          obtain ⟨pre, k', hpre, hforsaken⟩ := ih.mp hleaving
          refine iff_of_true (isLeaving_step_of_isLeaving hleaving) ?_
          exact ⟨pre, k', hpre.trans (List.prefix_append ..), hforsaken⟩
      | false =>
          rw [isLeaving_step hleaving hk]
          constructor
          · exact fun h => ⟨ks, k, List.prefix_rfl, h⟩
          · rintro ⟨pre, k', hpre, hforsaken⟩
            rcases List.prefix_concat_iff.mp hpre with heq | hpre
            · obtain ⟨rfl, rfl⟩ := List.append_singleton_inj.mp heq
              exact hforsaken
            · rw [ih.mpr ⟨pre, k', hpre, hforsaken⟩] at hleaving
              cases hleaving

/-- **Workers that are never told to stop.** -/
theorem persists_of_staying (w : Worker) (hw : w.phase.isLeaving = false) : w.Persists where
  stays ks hks := by
    rw [← Bool.not_eq_true, isLeaving_after_iff hw ks fun k hk => (hks k hk).1]
    rintro ⟨pre, k, hpre, hforsaken⟩
    have habandoned := (hks k (hpre.subset (by simp))).2
    simp [isForsaken, habandoned] at hforsaken
  leaves_iff ks hks := isLeaving_after_iff hw ks hks
  interrupted_iff _ _ hk := waitEnd?_eq_interrupted_iff hk
  gone ks h k k' := by
    rw [List.append_cons, after_concat, after_concat]
    exact step_of_isClosed (step_of_isLeaving h)

/-- A worker that has only now joined. -/
theorem persists_once :
    ∃ w, (Container.once.start .empty).workers.head? = some w ∧ w.phase.isLeaving = false ∧
      w.Persists :=
  ⟨_, rfl, rfl, persists_of_staying _ rfl⟩

/-! ### A worker that leaves -/

/-- Nobody has ever told the worker to stop, nor the sleeper, and they stop all the same: the worker
while it pauses after a record that it could not pass on, the sleeper long before the record is
due. -/
theorem after_abandoned :
    let b := ((Broker.empty.publish 0 { topic := "orders" }).2).refuseNext 6
    let attended : Surroundings :=
      { clock := { start := 0 }
        shutdown := {}
        handle := fun _ => some (Failure.new "error" "it failed")
        bury := fun _ _ => .ok () }
    let abandoned : Surroundings := { attended with shutdown := Shutdown.abandon {} }
    let ks := List.replicate 11 ⟨attended, b⟩ ++ List.replicate 2 ⟨abandoned, b⟩
    (∀ k ∈ ks, k.Unasked) ∧
      (Container.once.start .empty).workers.head?.map (fun w => (w.after ks).phase) =
        some .stopped ∧
      (DueWait.run 1000 0 [(50, .abandon)] {} {}).1 = some (.ok .interrupted) ∧
      (DueWait.run 1000 0 [] {} {}).1 = some (.ok .due) := by
  decide +kernel

end Worker

end Redelivery
