import Redelivery.Proofs.DueWait.Course
import Redelivery.Proofs.Worker.Dispatch

/-!
# Worker — waiting for a record to be due

A worker whose record has a due time goes on to hand it to the user's code only when the clock has
said that the record is due (`due_of_handling`).  Its consumer is paused while it waits and at no
other time (`Desk.Waits`), so that however a wait ends, the consumer takes records again
(`of_waitEnd?`).  A wait that is interrupted leaves the record as it was (`interrupt_of_step`).

The due time of a record is that of the copy: a worker that looks up a retry for a failed record
adds the delay of the next stage to the reading of the clock by which it looked it up
(`Worker.Prepares`, `prepares_of_step`).
-/

namespace Redelivery

/-- How a worker wakes from a slice that was not told to stop. -/
theorem DueWait.fst_wake {s : Shutdown} (hs : s.requested = false) (wait : DueWait) (now : Instant)
    (seen : Nat) (m : Membership) :
    (wait.wake now s seen m).1 =
      if s.stops seen then some (.ok .interrupted)
      else if wait.due.toInt ≤ now.toInt then some (.ok .due)
      else none := by
  have halive : (wait.showAlive m).1 = .ok () := by
    unfold showAlive
    split <;> rfl
  unfold wake
  dsimp only
  split
  · rfl
  · split
    · rfl
    · split
      · rename_i e _ h
        rw [h] at halive
        cases halive
      · rw [hs, if_neg Bool.false_ne_true]

/-- Whether the worker waits for its record to be due. -/
def Phase.isWaiting : Phase → Bool
  | .waiting .. => true
  | _ => false

/-- What is waited for is the due time of the record's state. -/
def Phase.Timed (p : Phase) : Prop :=
  ∀ r state wait wakeAt, p = .waiting r state wait wakeAt → state.dueAt = some wait.due

/-- What goes for a worker and its dispatch around a wait. -/
structure Desk.Waits (d : Desk) : Prop where
  timed : d.worker.phase.Timed
  paused : d.worker.consumer.paused = d.worker.phase.isWaiting
  /-- Nothing can be seen of a dispatch that was interrupted. -/
  untouched : ∀ r, d.worker.phase = .returning r .interrupted → d.dispatch = {}

namespace Worker

/-- How the worker's wait for its record ends in the next step, if it does. -/
def waitEnd? (w : Worker) (s : Surroundings) (b : Broker) :
    Option (Record × RetryState × Except BrokerError WaitOutcome) :=
  match w.phase with
  | .opening r =>
      match w.stateOf s.clock.now r with
      | .error _ => none
      | .ok state =>
          match state.dueAt with
          | none => none
          | some due =>
              ((DueWait.begin due s.clock.now s.shutdown (w.membership b)).1.getRight?).map
                (r, state, ·)
  | .waiting r state wait _ =>
      if w.isReady s b then
        (wait.wake s.clock.now s.shutdown w.seenSignal (w.membership b)).1.map (r, state, ·)
      else none
  | _ => none

/-- What a worker decides to publish: a dead letter, or a copy for the next stage that is due when
the delay of this stage has passed. -/
inductive Prepares (w : Worker) (s : Surroundings) (r : Record) (copy : Outgoing) : Prop where
  | deadLetter {stage : Stage} (hs : stage ∈ w.configuration.chain.stages)
      (hd : stage.role.isDeadLetter = true) (ht : copy.topic = stage.topicFor (w.mainTopic r))
  | retry {state : RetryState} {f : Failure} {stage : Stage} (hp : w.phase = .handling r state)
      (hf : s.handle r = some f)
      (hn : w.configuration.resolver.next w.stage (nextCount state.attempts) state.firstAttempt f
        s.clock.now = .retry stage)
      (hc : copy = copyFor r stage (stage.topicFor (w.mainTopic r))
        (state.nextHop f (s.clock.now.after stage.delay)))

variable {w : Worker} {s : Surroundings} {b : Broker} {r : Record} {state : RetryState}

/-! ### What a step leads to -/

theorem Decides.isWaiting {p : Phase} {events : List WorkerEvent} (h : w.Decides s r p events) :
    p.isWaiting = false := by
  cases h <;> rfl

theorem Decides.not_early {p : Phase} {events : List WorkerEvent} (h : w.Decides s r p events)
    {r' : Record} : ¬ p.Early r' := by
  intro h'
  cases h <;> cases h'

/-- A step of a worker that has decided nothing on its record, before or after it. -/
theorem Does.of_early {t : WorkerStep} (h : w.Does s b t) (hp : w.phase.Early r)
    (hp' : t.worker.phase.Early r) :
    (w.membership b).Quiet (t.worker.membership t.broker) ∧ t.events = [] := by
  cases h with
  | rest h _ _ _ | take h _ _ _ | leave h _ _ _ =>
      rw [record?, hp.record?] at h
      cases h
  | prepare _ _ hq he _ | interrupt _ _ hq he _ => exact ⟨hq, he⟩
  | decide _ hd _ => exact absurd hp' hd.not_early
  | publish h _ _ _ _ | commit h _ _ _ | giveBack h _ _ _ =>
      rw [h] at hp
      cases hp

theorem isWaiting_afterWait (r : Record) (state : RetryState)
    (result : Except BrokerError WaitOutcome) :
    (afterWait r state result).isWaiting = false := by
  unfold afterWait
  split <;> rfl

theorem afterWait_ne_waiting {result : Except BrokerError WaitOutcome} {r' : Record}
    {state' : RetryState} {wait : DueWait} {wakeAt : Nat} :
    afterWait r state result ≠ .waiting r' state' wait wakeAt := by
  intro h
  have hno := isWaiting_afterWait r state result
  rw [h] at hno
  cases hno

theorem afterWait_eq_handling {state' : RetryState} {r' : Record}
    {result : Except BrokerError WaitOutcome} (h : afterWait r state result = .handling r' state') :
    state = state' ∧ result = .ok .due := by
  unfold afterWait at h
  split at h
  · cases h
    exact ⟨rfl, rfl⟩
  · cases h
  · cases h

/-- A worker comes to hand over a record, or to wait for it, from a phase in which nothing was
decided on it. -/
theorem early_of_step {p : Phase} (hp : (w.step s b).worker.phase = p) (h : p.Early r)
    (hne : p ≠ .opening r) : w.phase.Early r := by
  have hdoes := w.does_step s b
  generalize w.step s b = t at hp hdoes
  have hrec := h.record?
  cases hdoes with
  | rest _ hp' _ _ | commit _ hp' _ _ | giveBack _ hp' _ _ | leave _ hp' _ _ =>
      rw [record?, hp, hrec] at hp'
      cases hp'
  | take _ _ hp' _ =>
      rw [hp] at hp'
      rw [hp', Phase.record?] at hrec
      cases hrec
      exact absurd hp' hne
  | @prepare r₀ h' hp' _ _ _ =>
      rw [hp] at hp'
      obtain rfl : r₀ = r := Option.some.inj (hp'.record?.symm.trans hrec)
      exact h'
  | interrupt _ hp' _ _ _ =>
      rw [hp] at hp'
      rw [hp'] at h
      cases h
  | decide _ hd _ => exact absurd h (hp ▸ hd).not_early
  | publish _ _ _ _ hp' =>
      rcases hp' with ⟨-, hp'⟩ | ⟨_, -, ⟨_, hp'⟩ | ⟨_, hp'⟩⟩ <;>
      · rw [hp] at hp'
        rw [hp'] at h
        cases h

theorem step_waiting {wait : DueWait} {wakeAt : Nat} (h : w.phase = .waiting r state wait wakeAt) :
    w.step s b = if w.isReady s b then w.stepWaiting s (w.membership b) r state wait
      else ⟨w, b, []⟩ := by
  unfold step
  cases hready : w.isReady s b with
  | false => rfl
  | true => simp only [h]; rfl

/-- A record is handed over once. -/
theorem not_handling_of_handling (h : w.phase = .handling r state) (r' : Record)
    (state' : RetryState) : (w.step s b).worker.phase ≠ .handling r' state' := by
  intro hp
  rw [step_handling h] at hp
  have hd := w.decides_handling (s := s) h
  rw [hp] at hd
  cases hd

/-- **The user's code is given a record** only when the clock has said that it is due. -/
theorem due_of_handling (h : w.phase.Timed) {due : Instant}
    (hp : (w.step s b).worker.phase = .handling r state) (hdue : state.dueAt = some due) :
    w.phase.Early r ∧ due.toInt ≤ s.clock.now.toInt := by
  have hearly : w.phase.Early r := early_of_step hp .handling (by simp)
  refine ⟨hearly, ?_⟩
  generalize hphase : w.phase = p at hearly
  cases hearly with
  | handling => exact absurd hp (not_handling_of_handling hphase r state)
  | opening =>
      rw [step_opening hphase] at hp
      unfold stepOpening at hp
      split at hp
      · rename_i violation hstate
        have hd := decides_reject hphase hstate
        change (w.reject s r violation).1 = .handling r state at hp
        rw [hp] at hd
        exact absurd .handling hd.not_early
      · rename_i state' hstate
        split at hp
        · -- without a due time it is handed over at once
          rename_i hnone
          cases hp
          rw [hdue] at hnone
          cases hnone
        · rename_i due' hdue'
          split at hp
          · rename_i result m hbegin
            obtain ⟨rfl, rfl⟩ := afterWait_eq_handling hp
            obtain rfl : due' = due := Option.some.inj (hdue'.symm.trans hdue)
            rcases DueWait.begin_cases due' s.clock.now s.shutdown (w.membership b) with
              ⟨hle, -⟩ | ⟨e, y, -, h⟩ | ⟨y, -, -, h⟩ | ⟨y, wait, -, -, h⟩
            · exact hle
            all_goals
              rw [hbegin] at h
              cases h
          · cases hp
  | @waiting state' wait wakeAt =>
      have htimed := h _ _ _ _ hphase
      rw [step_waiting hphase] at hp
      split at hp
      · unfold stepWaiting at hp
        dsimp only at hp
        split at hp
        · rename_i result m hwake
          obtain ⟨rfl, rfl⟩ := afterWait_eq_handling hp
          obtain rfl : wait.due = due := Option.some.inj (htimed.symm.trans hdue)
          obtain ⟨y, -, h | ⟨result, h, hle, -⟩⟩ :=
            wait.wake_cases s.clock.now s.shutdown w.seenSignal (w.membership b)
          · rw [hwake] at h
            cases h
          · rw [hwake] at h
            exact hle (DueWait.of_finish_eq_ok (Option.some.inj (Prod.mk.inj h).1).symm)
        · cases hp
      · rw [hphase] at hp
        cases hp

/-! ### Pausing -/

theorem paused_polling {deadline : Nat} {seen : Option Nat}
    (hw : w.consumer.paused = false) :
    (w.stepPolling s (w.membership b) deadline seen).worker.consumer.paused =
      (w.stepPolling s (w.membership b) deadline seen).worker.phase.isWaiting := by
  unfold stepPolling
  split
  · exact hw
  · split
    · split
      · rename_i r m hm
        exact (Membership.paused_take hm).trans hw
      · rename_i m hm
        exact (Membership.paused_take hm).trans hw
    · split <;> exact hw

theorem paused_opening (hp : w.phase = .opening r) (hw : w.consumer.paused = false) :
    (w.stepOpening s (w.membership b) r).worker.consumer.paused =
      (w.stepOpening s (w.membership b) r).worker.phase.isWaiting := by
  unfold stepOpening
  split
  · rename_i violation hstate
    exact hw.trans (decides_reject hp hstate).isWaiting.symm
  · rename_i state hstate
    split
    · exact hw
    · rename_i due hdue
      rcases DueWait.begin_cases due s.clock.now s.shutdown (w.membership b) with
        ⟨-, h⟩ | ⟨e, y, hpause, h⟩ | ⟨y, -, -, h⟩ | ⟨y, wait, hpause, -, h⟩
      · rw [h]
        exact hw.trans (isWaiting_afterWait r state (.ok .due)).symm
      · cases hpause
      · rw [h]
        exact (isWaiting_afterWait r state (DueWait.finish (.ok .interrupted) y).1).symm
      · rw [h]
        cases hpause
        rfl

theorem paused_waiting {wait : DueWait} (hw : w.consumer.paused = true) :
    (w.stepWaiting s (w.membership b) r state wait).worker.consumer.paused =
      (w.stepWaiting s (w.membership b) r state wait).worker.phase.isWaiting := by
  unfold stepWaiting
  dsimp only
  obtain ⟨y, hy, h | ⟨result, h, -⟩⟩ :=
    wait.wake_cases s.clock.now s.shutdown w.seenSignal (w.membership b)
  · rw [h]
    rcases hy with rfl | rfl <;> exact hw
  · rw [h]
    exact (isWaiting_afterWait r state (DueWait.finish result y).1).symm

/-- The consumer is paused while the worker waits, and at no other time. -/
theorem paused_step (h : w.consumer.paused = w.phase.isWaiting) :
    (w.step s b).worker.consumer.paused = (w.step s b).worker.phase.isWaiting := by
  unfold step
  dsimp only
  split
  · exact h
  · cases hp : w.phase with
    | waiting r state wait wakeAt => exact paused_waiting (h.trans (by rw [hp]; rfl))
    | opening r => exact paused_opening hp (h.trans (by rw [hp]; rfl))
    | polling deadline seen => exact paused_polling (h.trans (by rw [hp]; rfl))
    | handling r state =>
        refine (h.trans (by rw [hp]; rfl)).trans (w.decides_handling (s := s) hp).isWaiting.symm
    | idle =>
        have hw : w.consumer.paused = false := h.trans (by rw [hp]; rfl)
        refine hw.trans ?_
        simp only [continueWith, stepIdle]
        split <;> rfl
    | publishing r copy more =>
        have hw : w.consumer.paused = false := h.trans (by rw [hp]; rfl)
        refine hw.trans (Eq.symm ?_)
        obtain ⟨-, hres⟩ := (does_publishing (s := s) (b := b) hp).of_publishing hp
        rcases hres with ⟨-, hp'⟩ | ⟨_, -, ⟨_, hp'⟩ | ⟨_, hp'⟩⟩ <;>
          exact congrArg Phase.isWaiting hp'
    | returning r why =>
        have hw : w.consumer.paused = false := h.trans (by rw [hp]; rfl)
        cases why <;> exact hw
    | pausing wakeAt =>
        have hw : w.consumer.paused = false := h.trans (by rw [hp]; rfl)
        refine hw.trans ?_
        simp only [continueWith, stepPausing]
        split <;> split <;> rfl
    | committing r | closing => exact h.trans (by rw [hp]; rfl)
    | stopped => exact h.trans (by rw [hp])

/-- Whoever waits stays with its record, and with the state that it has read. -/
theorem timed_step (h : w.phase.Timed) : (w.step s b).worker.phase.Timed := by
  intro r state wait wakeAt hp
  have hearly : w.phase.Early r := early_of_step hp .waiting (by simp)
  generalize hphase : w.phase = p at hearly
  cases hearly with
  | handling =>
      rw [step_handling hphase] at hp
      have hd := (w.decides_handling (s := s) hphase).isWaiting
      rw [hp] at hd
      cases hd
  | opening =>
      rw [step_opening hphase] at hp
      unfold stepOpening at hp
      split at hp
      · rename_i violation hstate
        have hd := (decides_reject hphase hstate).isWaiting
        change (w.reject s r violation).1 = .waiting r state wait wakeAt at hp
        rw [hp] at hd
        cases hd
      · rename_i state' hstate
        split at hp
        · cases hp
        · rename_i due hdue
          split at hp
          · rename_i result m hbegin
            exact absurd hp afterWait_ne_waiting
          · -- the wait that begins is for the due time of the state
            rename_i wait' m hbegin
            cases hp
            rcases DueWait.begin_cases due s.clock.now s.shutdown (w.membership b) with
              ⟨-, h⟩ | ⟨e, y, -, h⟩ | ⟨y, -, -, h⟩ | ⟨y, wait', -, rfl, h⟩
            all_goals
              rw [hbegin] at h
              cases h
            exact hdue
  | @waiting state' wait' wakeAt' =>
      have htimed := h _ _ _ _ hphase
      rw [step_waiting hphase] at hp
      split at hp
      · unfold stepWaiting at hp
        dsimp only at hp
        split at hp
        · rename_i result m hwake
          exact absurd hp afterWait_ne_waiting
        · cases hp
          exact htimed
      · rw [hphase] at hp
        cases hp
        exact htimed

/-! ### The end of a wait -/

/-- Where the end of a wait leads. -/
theorem phase_of_waitEnd? {result : Except BrokerError WaitOutcome}
    (h : w.waitEnd? s b = some (r, state, result)) :
    (w.step s b).worker.phase = afterWait r state result := by
  cases hp : w.phase with
  | opening r₀ =>
      rw [step_opening hp]
      unfold stepOpening
      cases hstate : w.stateOf s.clock.now r₀ with
      | error violation => simp [waitEnd?, hp, hstate] at h
      | ok state₀ =>
          cases hdue : state₀.dueAt with
          | none => simp [waitEnd?, hp, hstate, hdue] at h
          | some due =>
              simp only [waitEnd?, hp, hstate, hdue] at h
              obtain ⟨result', hend, hr⟩ := Option.map_eq_some_iff.mp h
              cases hr
              dsimp only
              rw [hdue]
              dsimp only
              generalize DueWait.begin due s.clock.now s.shutdown (w.membership b) = x at hend
              obtain ⟨wait | result', m⟩ := x
              · cases hend
              · cases hend
                rfl
  | waiting r₀ state₀ wait wakeAt =>
      rw [step_waiting hp]
      cases hready : w.isReady s b with
      | false => simp [waitEnd?, hp, hready] at h
      | true =>
          simp only [waitEnd?, hp, hready, if_true] at h
          obtain ⟨result', hend, hr⟩ := Option.map_eq_some_iff.mp h
          cases hr
          rw [if_pos rfl]
          unfold stepWaiting
          dsimp only
          generalize wait.wake s.clock.now s.shutdown w.seenSignal (w.membership b) = x at hend
          obtain ⟨_ | result', m⟩ := x
          · cases hend
          · cases hend
            rfl
  | _ => simp [waitEnd?, hp] at h

/-- **However a wait ends**, the worker goes on as it says, and its consumer takes records again. -/
theorem of_waitEnd? {result : Except BrokerError WaitOutcome}
    (hw : w.consumer.paused = w.phase.isWaiting) (h : w.waitEnd? s b = some (r, state, result)) :
    (w.step s b).worker.phase = afterWait r state result ∧
      (w.step s b).worker.consumer.paused = false := by
  have hphase := phase_of_waitEnd? h
  refine ⟨hphase, (paused_step hw).trans ?_⟩
  rw [hphase, isWaiting_afterWait]

/-- A worker that waits does nothing else. -/
theorem quiet_of_isWaiting (h : w.phase.isWaiting = true) :
    (w.membership b).Quiet ((w.step s b).worker.membership (w.step s b).broker) ∧
      (w.step s b).events = [] := by
  cases hp : w.phase with
  | waiting r state wait wakeAt =>
      rw [step_waiting hp]
      split
      · have hq := Membership.quiet_wake wait s.clock.now s.shutdown w.seenSignal (w.membership b)
        unfold stepWaiting
        dsimp only
        split
        · rename_i result m hwake
          rw [hwake] at hq
          exact ⟨hq, rfl⟩
        · rename_i m hwake
          rw [hwake] at hq
          exact ⟨hq, rfl⟩
      · exact ⟨.refl _, rfl⟩
  | _ =>
      rw [hp] at h
      cases h

/-- Whoever gives a record back because of a shutdown comes from a wait. -/
theorem interrupt_of_step (hp : (w.step s b).worker.phase = .returning r .interrupted) :
    w.phase.Early r ∧ w.routeOf? s = none ∧ (w.step s b).events = [] ∧
      (w.membership b).Quiet ((w.step s b).worker.membership (w.step s b).broker) := by
  have hdoes := w.does_step s b
  by_cases hpub : ∃ r copy more, w.phase = .publishing r copy more
  · -- a copy that is refused is another reason to give a record back
    obtain ⟨r', copy, more, hphase⟩ := hpub
    rw [step_publishing hphase] at hp
    simp only [stepPublishing, continueWith] at hp
    split at hp
    · cases hp
    · split at hp
      all_goals cases hp
    · cases hp
  · generalize w.step s b = t at hp hdoes
    cases hdoes with
    | rest _ hp' _ _ | commit _ hp' _ _ | giveBack _ hp' _ _ | leave _ hp' _ _ =>
        rw [record?, hp] at hp'
        cases hp'
    | take _ _ hp' _ =>
        rw [hp] at hp'
        cases hp'
    | prepare _ hp' _ _ _ =>
        rw [hp] at hp'
        cases hp'
    | interrupt h hp' hq he hr =>
        rw [hp] at hp'
        cases hp'
        exact ⟨h, hr, he, hq⟩
    | decide _ hd _ =>
        rw [hp] at hd
        cases hd
    | publish hphase _ _ _ _ => exact absurd ⟨_, _, _, hphase⟩ hpub

/-! ### What is decided on a record -/

section

variable {r' : Record} {time : Instant} {failure : Option Failure}

theorem not_handled_giveUp (stage : Stage) (state : RetryState) (f : Failure)
    (reason : TerminalReason) :
    .handled r' time failure ∉ (w.giveUp s r stage state f reason).2 := by
  unfold giveUp
  dsimp only
  split <;> simp

theorem not_handled_reject (violation : HeaderError) :
    .handled r' time failure ∉ (w.reject s r violation).2 := by
  unfold reject
  dsimp only
  split
  · exact not_handled_giveUp _ _ _ _
  · simp

theorem not_handled_routeFailure (f : Failure) :
    .handled r' time failure ∉ (w.routeFailure s r state f).2 := by
  unfold routeFailure
  dsimp only
  split
  · simp
  · exact not_handled_giveUp _ _ _ _
  · simp

/-- What user code is given when a record is handed over. -/
theorem events_handling (h : w.phase = .handling r state) :
    (w.step s b).events = (w.stepHandling s r state).2 := by
  simp only [step, isReady, h]
  rfl

/-- Only a worker that is about to hand over a record does so. -/
theorem handling_of_handled (h : .handled r time failure ∈ (w.step s b).events) :
    ∃ state, w.phase = .handling r state := by
  have hdoes := w.does_step s b
  cases hdoes with
  | rest _ _ _ he | take _ _ _ he | prepare _ _ _ he _ | interrupt _ _ _ he _
  | publish _ _ _ he _ | commit _ _ _ he | giveBack _ _ _ he | leave _ _ _ he =>
      rw [he] at h
      cases h
  | decide hearly _ _ =>
      generalize hp : w.phase = p at hearly
      cases hearly with
      | opening =>
          rw [step_opening hp] at h
          unfold stepOpening at h
          split at h
          · exact absurd h (not_handled_reject _)
          · split at h
            · cases h
            · split at h <;> cases h
      | waiting =>
          rw [(quiet_of_isWaiting (by rw [hp]; rfl)).2] at h
          cases h
      | @handling state =>
          rw [events_handling hp] at h
          simp only [stepHandling] at h
          rcases List.mem_cons.mp h with h | h
          · cases h
            exact ⟨state, rfl⟩
          · -- what follows is at most a dead letter
            split at h
            · cases h
            · exact absurd h (not_handled_routeFailure _)

end

/-- **What a worker decides to publish.** -/
theorem prepares_of_step {copy : Outgoing} {r' : Record} {more : Nat} (h : w.phase.Early r)
    (hp : (w.step s b).worker.phase = .publishing r' copy more) : r' = r ∧ w.Prepares s r copy := by
  obtain ⟨rfl, route, stage, state, hr, hs, hcopy⟩ := publishing_of_early h hp
  refine ⟨rfl, ?_⟩
  cases route with
  | discard reason => cases hs
  | deadLetter stage' reason =>
      cases hs
      cases Desk.offers_routeOf? w s hr with
      | deadLetter hmem hdead => exact .deadLetter hmem hdead (hcopy ▸ rfl)
  | retry stage' =>
      cases hs
      -- only a record that was handed over is retried
      generalize hphase : w.phase = p at h
      cases h with
      | opening =>
          simp only [routeOf?, hphase] at hr
          split at hr
          · exact absurd (Option.some.inj hr) (Resolver.deadLetterFor_ne_retry _ _ _ _)
          · cases hr
      | waiting =>
          simp only [routeOf?, hphase] at hr
          cases hr
      | handling =>
          rw [step_handling hphase] at hp
          simp only [routeOf?, hphase] at hr
          obtain ⟨f, hf, hn⟩ := Option.map_eq_some_iff.mp hr
          simp only [stepHandling, hf, routeFailure, hn] at hp
          exact .retry hphase hf hn (Phase.publishing.inj hp).2.1.symm

end Worker

namespace Desk

/-- A worker that has only now joined. -/
theorem waits_of_idle {w : Worker} (hp : w.phase = .idle) (hc : w.consumer.paused = false) :
    Waits ⟨w, {}⟩ where
  timed r state wait wakeAt h := by
    rw [hp] at h
    cases h
  paused := by
    rw [hp]
    exact hc
  untouched _ _ := rfl

/-- **Every step** of a worker. -/
theorem Waits.step {d : Desk} (h : d.Waits) (hd : d.Orderly) (s : Surroundings) (b : Broker) :
    (d.step s b).Waits where
  timed := Worker.timed_step h.timed
  paused := Worker.paused_step h.paused
  untouched r hp := by
    obtain ⟨hearly, hr, he, -⟩ := Worker.interrupt_of_step hp
    exact (after_of_early hd.fits hearly).trans (by rw [hr, he])

end Desk

end Redelivery
