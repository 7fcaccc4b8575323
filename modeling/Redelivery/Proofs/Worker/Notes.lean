import Redelivery.Proofs.RetryState.Reading
import Redelivery.Proofs.Worker.Steps

/-!
# Worker — what copies are made of

While a worker deals with a record, a `Note` is kept of two things: what the clock said when the
worker read the state of the record, and the failure for which it looked up a route
(`Note.after`).

**Copies** (`Noted.step`).  The state that the worker goes on with is the one that it read, however
long it waits, and the copy that it tries to publish, however often, is the record with the state
after one more attempt, which ended in the failure of the note (`Worker.Copies`).
-/

namespace Redelivery

/-- What is noted of a worker's dealing with a record. -/
structure Note where
  /-- When the state of the record was read. -/
  opened : Option Instant := none
  /-- The failure that a route was looked up for. -/
  failure : Option Failure := none
  deriving Repr, DecidableEq

namespace Worker

/-- When the worker reads the state of its record, if its next step does. -/
def openedAt? (w : Worker) (s : Surroundings) : Option Instant :=
  match w.phase with
  | .opening _ => some s.clock.now
  | _ => none

/-- The failure that the worker's next step looks up a route for, if it does. -/
def failureOf? (w : Worker) (s : Surroundings) : Option Failure :=
  match w.phase with
  | .opening r =>
      match w.stateOf s.clock.now r with
      | .error violation => some (Failure.new FatalKinds.missingRetryHeaders violation.message)
      | .ok _ => none
  | .handling r _ => s.handle r
  | _ => none

/-- What is published of a record whose state was read at a time and that ended in a failure: the
record with its state after one more attempt. -/
def Copies (w : Worker) (t : Instant) (f : Failure) (r : Record) (copy : Outgoing) : Prop :=
  ∀ state, w.stateOf t r = .ok state →
    ∃ stage topic due, copy = copyFor r stage topic (state.nextHop f due)

variable {w : Worker} {t : Instant} {f : Failure} {r : Record} {copy : Outgoing}

theorem stateOf_of_isMain (h : w.stage.isMain = true) (t : Instant) (r : Record) :
    w.stateOf t r = .ok (.first r t) := by
  rw [stateOf, if_pos h]

theorem stateOf_of_not_isMain (h : w.stage.isMain = false) (t : Instant) {state : RetryState} :
    w.stateOf t r = .ok state ↔ RetryState.read r.headers = .ok (some state) := by
  rw [stateOf, if_neg (by simp [h])]
  cases RetryState.read r.headers with
  | error e => simp
  | ok s => cases s <;> simp

/-- The number of attempts that a record says does not depend on the time. -/
theorem exists_stateOf {state : RetryState} (h : w.stateOf t r = .ok state) (t' : Instant) :
    ∃ state', w.stateOf t' r = .ok state' ∧ state'.attempts = state.attempts := by
  cases hmain : w.stage.isMain with
  | true =>
      rw [stateOf_of_isMain hmain] at h
      cases h
      exact ⟨_, stateOf_of_isMain hmain t' r, rfl⟩
  | false =>
      have hread := (stateOf_of_not_isMain hmain t).mp h
      exact ⟨state, (stateOf_of_not_isMain hmain t').mpr hread, rfl⟩

/-- The record that a copy becomes. -/
theorem Copies.passedOn (h : w.Copies t f r copy) {state : RetryState}
    (hstate : w.stateOf t r = .ok state) (now : Instant) (y : Place) :
    r.PassedOn state f
      (Broker.recordOf y.topic y.partition y.offset (Broker.entryOf now copy)) := by
  obtain ⟨stage, topic, due, rfl⟩ := h state hstate
  exact ⟨rfl, rfl, due, rfl⟩

end Worker

/-- The note after the next step of a worker.  Taking a record begins another one. -/
def Note.after (n : Note) (w : Worker) (s : Surroundings) : Note :=
  if w.record?.isSome then
    { opened := n.opened.or (w.openedAt? s), failure := n.failure.or (w.failureOf? s) }
  else {}

/-- The note goes with what the worker does next. -/
inductive Noted (w : Worker) : Note → Phase → Prop where
  | free {n : Note} {p : Phase} (h : p.record? = none) : Noted w n p
  | opening {r : Record} : Noted w {} (.opening r)
  | waiting {r : Record} {state : RetryState} {wait : DueWait} {wakeAt : Nat} {t : Instant}
      (h : w.stateOf t r = .ok state) : Noted w ⟨some t, none⟩ (.waiting r state wait wakeAt)
  | handling {r : Record} {state : RetryState} {t : Instant} (h : w.stateOf t r = .ok state) :
      Noted w ⟨some t, none⟩ (.handling r state)
  | publishing {r : Record} {copy : Outgoing} {more : Nat} {t : Instant} {f : Failure}
      (h : w.Copies t f r copy) : Noted w ⟨some t, some f⟩ (.publishing r copy more)
  | committing {n : Note} {r : Record} : Noted w n (.committing r)
  | returning {n : Note} {r : Record} {why : DispatchError} : Noted w n (.returning r why)

section

variable {w : Worker} {n : Note} {s : Surroundings} {b : Broker} {r : Record}

/-! ### One step -/

theorem Note.after_of_no_record (n : Note) (s : Surroundings) (h : w.record? = none) :
    n.after w s = {} := by
  simp [after, h]

theorem Note.after_of_record (n : Note) (s : Surroundings) (h : w.record? = some r) :
    n.after w s = ⟨n.opened.or (w.openedAt? s), n.failure.or (w.failureOf? s)⟩ := by
  simp [after, h]

/-- After a wait the worker goes on with the same state. -/
theorem noted_afterWait {state : RetryState} {t : Instant} (h : w.stateOf t r = .ok state)
    (result : Except BrokerError WaitOutcome) :
    Noted w ⟨some t, none⟩ (Worker.afterWait r state result) := by
  unfold Worker.afterWait
  split
  · exact .handling h
  · exact .returning
  · exact .returning

/-- What is given up is published with the state that goes with it, or not at all. -/
theorem noted_giveUp {stage : Stage} {state : RetryState} {f : Failure} {reason : TerminalReason}
    {t : Instant}
    (h : ∀ topic, w.Copies t f r (Worker.copyFor r stage topic state)) :
    Noted w ⟨some t, some f⟩ (w.giveUp s r stage state f reason).1 := by
  unfold Worker.giveUp
  dsimp only
  split
  · exact .publishing (h _)
  · split
    · exact .publishing (h _)
    · exact .committing

theorem noted_reject {violation : HeaderError} {t : Instant}
    (h : w.stateOf t r = .error violation) :
    Noted w ⟨some t, some (Failure.new FatalKinds.missingRetryHeaders violation.message)⟩
      (w.reject s r violation).1 := by
  unfold Worker.reject
  dsimp only
  split
  · -- there is no state that a copy could disagree with
    refine noted_giveUp fun topic state hstate => ?_
    rw [h] at hstate
    cases hstate
  · exact .committing

theorem noted_opening (hp : w.phase = .opening r) :
    Noted w (Note.after {} w s) (w.step s b).worker.phase := by
  have hrec : w.record? = some r := congrArg Phase.record? hp
  rw [Note.after_of_record {} s hrec, Worker.step_opening hp]
  simp only [Worker.openedAt?, Worker.failureOf?, hp, Option.none_or]
  unfold Worker.stepOpening
  cases hstate : w.stateOf s.clock.now r with
  | error violation => exact noted_reject hstate
  | ok state =>
      dsimp only
      split
      · exact .handling hstate
      · split
        · exact noted_afterWait hstate _
        · exact .waiting hstate

theorem noted_waiting {state : RetryState} {wait : DueWait} {wakeAt : Nat} {t : Instant}
    (hp : w.phase = .waiting r state wait wakeAt) (h : w.stateOf t r = .ok state) :
    Noted w ⟨some t, none⟩ (w.step s b).worker.phase := by
  unfold Worker.step
  dsimp only
  split
  · rw [hp]
    exact .waiting h
  · simp only [hp]
    unfold Worker.stepWaiting
    dsimp only
    split
    · exact noted_afterWait h _
    · exact .waiting h

theorem noted_handling {state : RetryState} {t : Instant} (hp : w.phase = .handling r state)
    (h : w.stateOf t r = .ok state) :
    Noted w (Note.after ⟨some t, none⟩ w s) (w.step s b).worker.phase := by
  have hrec : w.record? = some r := congrArg Phase.record? hp
  rw [Note.after_of_record _ s hrec, Worker.step_handling hp]
  simp only [Worker.failureOf?, hp, Option.none_or]
  unfold Worker.stepHandling
  cases hf : s.handle r with
  | none => exact .committing
  | some f =>
      have hcopies : ∀ stage topic due,
          w.Copies t f r (Worker.copyFor r stage topic (state.nextHop f due)) := by
        intro stage topic due state' hstate'
        obtain rfl : state = state' := Except.ok.inj (h.symm.trans hstate')
        exact ⟨stage, topic, due, rfl⟩
      dsimp only
      unfold Worker.routeFailure
      dsimp only
      split
      · exact .publishing (hcopies _ _ _)
      · exact noted_giveUp fun topic => hcopies _ topic _
      · exact .committing

theorem noted_publishing {copy : Outgoing} {more : Nat} {t : Instant} {f : Failure}
    (hp : w.phase = .publishing r copy more) (h : w.Copies t f r copy) :
    Noted w ⟨some t, some f⟩ (w.step s b).worker.phase := by
  obtain ⟨-, hres⟩ := (w.does_step s b).of_publishing hp
  rcases hres with ⟨-, hphase⟩ | ⟨_, -, ⟨_, hphase⟩ | ⟨_, hphase⟩⟩
  · rw [hphase]
    exact .committing
  · rw [hphase]
    exact .publishing h
  · rw [hphase]
    exact .returning

theorem Noted.congr {w w' : Worker} {p : Phase} (hs : ∀ t r, w'.stateOf t r = w.stateOf t r)
    (h : Noted w n p) : Noted w' n p := by
  cases h with
  | free h => exact .free h
  | opening => exact .opening
  | waiting h => exact .waiting ((hs _ _).trans h)
  | handling h => exact .handling ((hs _ _).trans h)
  | publishing h => exact .publishing fun state hstate => h state ((hs _ _).symm.trans hstate)
  | committing => exact .committing
  | returning => exact .returning

/-- **Every step** leaves a note that goes with what the worker does next. -/
theorem Noted.step (h : Noted w n w.phase) (s : Surroundings) (b : Broker) :
    Noted (w.step s b).worker (n.after w s) (w.step s b).worker.phase := by
  -- a step changes nothing of the worker that the state of a record is read with
  obtain ⟨consumer, phase, seenSignal, redelivery, hw⟩ := w.step_worker s b
  refine Noted.congr (w := w) (fun t r => by rw [hw]; rfl) ?_
  have hdoes := w.does_step s b
  generalize hp : w.phase = p at h
  cases h with
  | free hfree =>
      have hrec : w.record? = none := (congrArg Phase.record? hp).trans hfree
      rw [n.after_of_no_record s hrec]
      rcases hdoes.of_no_record hrec with hfree' | ⟨r, hp'⟩
      · exact .free hfree'
      · rw [hp']
        exact .opening
  | opening => exact noted_opening hp
  | @waiting r state wait wakeAt t hstate =>
      have hrec : w.record? = some r := congrArg Phase.record? hp
      have hafter : Note.after ⟨some t, none⟩ w s = ⟨some t, none⟩ := by
        rw [Note.after_of_record _ s hrec]
        simp only [Worker.failureOf?, hp, Option.some_or, Option.none_or]
      rw [hafter]
      exact noted_waiting hp hstate
  | handling hstate => exact noted_handling hp hstate
  | @publishing r copy more t f hcopies =>
      have hrec : w.record? = some r := congrArg Phase.record? hp
      rw [Note.after_of_record _ s hrec]
      exact noted_publishing hp hcopies
  | committing =>
      rw [Worker.step_committing hp]
      exact .free rfl
  | returning =>
      rw [Worker.step_returning hp]
      refine .free ?_
      unfold Worker.stepReturning
      dsimp only
      split <;> rfl

end

end Redelivery
