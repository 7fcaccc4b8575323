import Redelivery.Proofs.RetryState.Reading
import Redelivery.Proofs.Worker.Notes
import Redelivery.Proofs.Worker.Waits

/-!
# Worker — records that say no state

On a stage other than the main one a worker reads the state of a record from its headers.  These may
announce none, or one that is not legible (`Headers.Illegible`).  The worker gives such a record up.
It makes a dead letter of it, whose state it writes anew (`Configuration.Rejects`), and which a
handler takes (`Configuration.Buries`) or not (`Configuration.FailsToBury`).

**Containment** (`Desk.Contained.step`).  What the worker has done with the record so far, and what
it does next, is one of a few things (`Desk.Rejecting`), none of which is to hand it to the user's
code or to publish it for another attempt.  It takes a bounded number of steps
(`Desk.Rejecting.step`).
-/

namespace Redelivery

/-- The headers do not say a retry state. -/
def Headers.Illegible (h : Headers) : Prop := ∀ state, RetryState.read h ≠ .ok (some state)

theorem Headers.not_illegible_iff {h : Headers} :
    ¬ h.Illegible ↔ ∃ state, RetryState.read h = .ok (some state) := by
  simp [Illegible]

/-- The state of a record of a main topic that is given up for its headers.  It counts one attempt,
and its origin is where it lies. -/
structure RetryState.Rejected (s : RetryState) (r : Record) (main : String) : Prop where
  originalTopic : s.originalTopic = main
  originalPartition : s.originalPartition = Int32.ofInt r.partition
  originalOffset : s.originalOffset = Int64.ofInt r.offset
  attempts : s.attempts = 1
  failureKind : s.failureKind = some FatalKinds.missingRetryHeaders

namespace Configuration

/-- The dead letter of a record of a main topic that is given up for its headers, and the stage
that it is for. -/
structure Rejects (c : Configuration) (main : String) (r : Record) (letter : DeadLetter)
    (stage : Stage) : Prop where
  record : letter.record = r
  state : letter.state.Rejected r main
  /-- Whatever headers the state is written into, it is read back. -/
  written : ∀ h, ∃ next, RetryState.read (letter.state.apply h) = .ok (some next) ∧
    next.Rejected r main
  failure : letter.failure.kinds = [FatalKinds.missingRetryHeaders]
  reason : letter.reason = .missingRetryHeaders
  route : c.resolver.deadLetterFor letter.failure .missingRetryHeaders =
    .deadLetter stage .missingRetryHeaders
  destination : letter.destination = stage.topicFor main

/-- No handler has taken the dead letter: there is none, or it failed, and what it does not take is
to be published. -/
inductive FailsToBury (c : Configuration) (letter : DeadLetter) : List WorkerEvent → Prop where
  | unhandled (h : c.handler = none) : FailsToBury c letter []
  | refused {handler : DeadLetterHandler} {e : DeadLetterError} (h : c.handler = some handler)
      (hs : c.strategy = .alwaysRetryOnError) :
      FailsToBury c letter [.buried handler letter (.error e)]

/-- The dead letter ends with the handler, which took it, or whose failure does not matter. -/
inductive Buries (c : Configuration) (letter : DeadLetter) : List WorkerEvent → Prop where
  | taken {handler : DeadLetterHandler} (h : c.handler = some handler) :
      Buries c letter [.buried handler letter (.ok ())]
  | lost {handler : DeadLetterHandler} {e : DeadLetterError} (h : c.handler = some handler)
      (hs : c.strategy ≠ .alwaysRetryOnError) :
      Buries c letter [.buried handler letter (.error e)]

end Configuration

/-- What can be seen of the dispatch of a record that is given up for its headers, and what its
worker does next. -/
inductive Desk.Rejecting (c : Configuration) (main : String) (r : Record) (d : Dispatch) :
    Phase → Prop where
  | opening (hd : d = {}) : Rejecting c main r d (.opening r)
  | publishing {letter : DeadLetter} {stage : Stage} {more : Nat}
      (h : c.Rejects main r letter stage) (he : c.FailsToBury letter d.events)
      (hc : d.copies = []) :
      Rejecting c main r d
        (.publishing r (Worker.copyFor r stage letter.destination letter.state) more)
  | published {letter : DeadLetter} {stage : Stage} {y : Place} (h : c.Rejects main r letter stage)
      (he : c.FailsToBury letter d.events) (hc : d.copies = [y])
      (ht : y.topic = letter.destination) : Rejecting c main r d (.committing r)
  | buried {letter : DeadLetter} {stage : Stage} (h : c.Rejects main r letter stage)
      (he : c.Buries letter d.events) (hc : d.copies = []) : Rejecting c main r d (.committing r)
  | discarded (h : c.chain.deadLetter? = none) (he : d.events = []) (hc : d.copies = []) :
      Rejecting c main r d (.committing r)
  | returning {letter : DeadLetter} {stage : Stage} {e : BrokerError}
      (h : c.Rejects main r letter stage) (he : c.FailsToBury letter d.events)
      (hc : d.copies = []) : Rejecting c main r d (.returning r (.republish letter.destination e))

/-- How many steps it takes at most until a worker that tries so often to publish lets go of a
record that it gives up. -/
def Phase.stepsLeft (tries : Nat) : Phase → Nat
  | .opening _ => tries + 3
  | .publishing _ _ more => more + 2
  | .committing _ | .returning _ _ => 1
  | _ => 0

namespace Desk

/-- The worker is on a stage other than the main one, and the headers of its record say no
state. -/
structure Confronts (d : Desk) (r : Record) : Prop where
  record : d.worker.record? = some r
  isMain : d.worker.stage.isMain = false
  illegible : r.headers.Illegible

/-- Records whose headers say no state are given up. -/
def Contained (d : Desk) : Prop :=
  ∀ r, d.Confronts r →
    Rejecting d.worker.configuration (d.worker.mainTopic r) r d.dispatch d.worker.phase

end Desk

/-! ### What is decided -/

/-- The stage of the dead letter is one of the chain's for dead letters. -/
theorem Configuration.Rejects.mem_stages {c : Configuration} {main : String} {r : Record}
    {letter : DeadLetter} {stage : Stage} (h : c.Rejects main r letter stage) :
    stage ∈ c.chain.stages ∧ stage.role.isDeadLetter = true := by
  have hoffers := c.resolver.offers_deadLetterFor c.chain.main letter.failure .missingRetryHeaders
  rw [h.route] at hoffers
  cases hoffers with
  | deadLetter hs hd => exact ⟨hs, hd⟩

namespace Worker

variable {w : Worker} {s : Surroundings} {b : Broker} {r : Record}

theorem stateOf_of_illegible (hmain : w.stage.isMain = false) (h : r.headers.Illegible) :
    ∃ violation, ∀ t, w.stateOf t r = .error violation := by
  simp only [stateOf, hmain, Bool.false_eq_true, if_false]
  cases hread : RetryState.read r.headers with
  | error e => exact ⟨e, fun _ => rfl⟩
  | ok state =>
      cases state with
      | none => exact ⟨.missing .originalTopic, fun _ => rfl⟩
      | some state => exact absurd hread (h state)

/-- A dead letter is published, or it ends with the handler. -/
theorem giveUp_cases (w : Worker) (s : Surroundings) {letter : DeadLetter} {stage : Stage}
    (hd : letter.destination = stage.topicFor (w.mainTopic letter.record)) :
    let result := w.giveUp s letter.record stage letter.state letter.failure letter.reason
    (w.configuration.FailsToBury letter result.2 ∧
      result.1 = .publishing letter.record
        (copyFor letter.record stage letter.destination letter.state) w.republishTries) ∨
    (w.configuration.Buries letter result.2 ∧ result.1 = .committing letter.record) := by
  obtain ⟨r, state, failure, reason, topic⟩ := letter
  dsimp only at hd
  subst hd
  unfold giveUp
  dsimp only
  cases hh : w.configuration.handler with
  | none => exact .inl ⟨.unhandled hh, rfl⟩
  | some handler =>
      dsimp only
      cases s.bury handler ⟨r, state, failure, reason, stage.topicFor (w.mainTopic r)⟩ with
      | ok _ => exact .inr ⟨.taken hh, rfl⟩
      | error e =>
          -- what follows a failure is a matter of strategy
          cases hs : w.configuration.strategy with
          | alwaysRetryOnError => exact .inl ⟨.refused hh hs, rfl⟩
          | failOnError | noDeadLetters => exact .inr ⟨.lost hh (by simp [hs]), rfl⟩

/-- The state of a record that is given up for its headers is written so that it is read back. -/
theorem rejects_of_route (r : Record) (violation : HeaderError) (now : Instant) {stage : Stage}
    {reason : TerminalReason}
    (h : w.configuration.resolver.deadLetterFor
      (.new FatalKinds.missingRetryHeaders violation.message) .missingRetryHeaders =
        .deadLetter stage reason) :
    w.configuration.Rejects (w.mainTopic r) r
      { record := r
        state := { RetryState.first r now with originalTopic := w.mainTopic r }.nextHop
          (.new FatalKinds.missingRetryHeaders violation.message) now
        failure := .new FatalKinds.missingRetryHeaders violation.message
        reason
        destination := stage.topicFor (w.mainTopic r) } stage := by
  obtain rfl : reason = .missingRetryHeaders := by
    have := w.configuration.resolver.reason?_deadLetterFor
      (.new FatalKinds.missingRetryHeaders violation.message) .missingRetryHeaders
    rw [h] at this
    exact Option.some.inj this
  exact {
    record := rfl
    state := ⟨rfl, rfl, rfl, rfl, rfl⟩
    written := fun headers =>
      ⟨_, RetryState.read_nextHop _ _ now headers, rfl, rfl, rfl, rfl, rfl⟩
    failure := rfl
    reason := rfl
    route := h
    destination := rfl }

/-- **A record that is given up for its headers** becomes a dead letter, which is published or ends
with the handler, unless the chain has no dead letters. -/
theorem reject_cases (w : Worker) (s : Surroundings) (r : Record) (violation : HeaderError) :
    (∃ letter stage, w.configuration.Rejects (w.mainTopic r) r letter stage ∧
      ((w.configuration.FailsToBury letter (w.reject s r violation).2 ∧
        (w.reject s r violation).1 = .publishing r
          (copyFor r stage letter.destination letter.state) w.republishTries) ∨
      (w.configuration.Buries letter (w.reject s r violation).2 ∧
        (w.reject s r violation).1 = .committing r))) ∨
    (w.configuration.chain.deadLetter? = none ∧
      w.reject s r violation = (.committing r, [])) := by
  have hoffers := w.configuration.resolver.offers_deadLetterFor w.stage
    (.new FatalKinds.missingRetryHeaders violation.message) .missingRetryHeaders
  unfold reject
  dsimp only
  generalize hroute : w.configuration.resolver.deadLetterFor
    (.new FatalKinds.missingRetryHeaders violation.message) .missingRetryHeaders = route at hoffers
  cases hoffers with
  | retry => exact absurd hroute (Resolver.deadLetterFor_ne_retry _ _ _ _)
  | @deadLetter stage reason _ _ =>
      have h := rejects_of_route r violation s.clock.now hroute
      exact .inl ⟨_, stage, h, giveUp_cases w s h.destination⟩
  | discard h => exact .inr ⟨h, rfl⟩

theorem step_opening_of_error {violation : HeaderError} (hp : w.phase = .opening r)
    (h : w.stateOf s.clock.now r = .error violation) :
    (w.step s b).worker.phase = (w.reject s r violation).1 ∧
      (w.step s b).events = (w.reject s r violation).2 := by
  rw [step_opening hp, stepOpening, h]
  exact ⟨rfl, rfl⟩

/-! ### What is published -/

theorem events_publishing {copy : Outgoing} {more : Nat} (hp : w.phase = .publishing r copy more) :
    (w.step s b).events = [] := by
  rw [step_publishing hp]
  rfl

/-- **A try to publish.**  After one that failed there are fewer left, or the record is given
back. -/
theorem publishing_attempt (hb : b.Regular) {copy : Outgoing} {more : Nat}
    (hp : w.phase = .publishing r copy more) (s : Surroundings) :
    (∃ y : Place, (b.publish s.clock.now copy).1 = .ok () ∧
      b.gained (w.step s b).broker = [y] ∧ y.topic = copy.topic ∧
      (w.step s b).worker.phase = .committing r) ∨
    ∃ e, (b.publish s.clock.now copy).1 = .error e ∧ b.gained (w.step s b).broker = [] ∧
      ((∃ less < more, (w.step s b).worker.phase = .publishing r copy less) ∨
        (w.step s b).worker.phase = .returning r (.republish copy.topic e)) := by
  have hcases := Desk.publishing_cases hb hp s
  rw [step_publishing hp] at hcases ⊢
  unfold stepPublishing at hcases ⊢
  dsimp only [membership, continueWith] at hcases ⊢
  generalize b.publish s.clock.now copy = result at hcases ⊢
  obtain ⟨_ | _, b'⟩ := result
  · rename_i e
    refine .inr ⟨e, rfl, ?_, ?_⟩
    · rcases hcases with ⟨hgain, -⟩ | ⟨y, -, -, -, hcommit⟩
      · exact hgain
      · -- a failure does not lead to an acknowledgement
        cases more with
        | zero => cases hcommit
        | succ more =>
            dsimp only at hcommit
            split at hcommit <;> cases hcommit
    · cases more with
      | zero => exact .inr rfl
      | succ more =>
          dsimp only
          split
          · exact .inl ⟨more, Nat.lt_succ_self more, rfl⟩
          · exact .inr rfl
  · rcases hcases with ⟨-, ⟨_, hphase⟩ | ⟨_, hphase⟩⟩ | ⟨y, hgain, hy, -, hcommit⟩
    · cases hphase
    · cases hphase
    · exact .inl ⟨y, rfl, hgain, hy, hcommit⟩

end Worker

/-! ### Containment -/

namespace Desk

variable {c : Configuration} {main : String} {r : Record} {d : Desk} {b : Broker}

theorem Rejecting.record? {x : Dispatch} {p : Phase} (h : Rejecting c main r x p) :
    p.record? = some r := by
  cases h <;> rfl

theorem Rejecting.stepsLeft_pos {x : Dispatch} {p : Phase} (h : Rejecting c main r x p)
    (tries : Nat) : 0 < p.stepsLeft tries := by
  cases h <;> simp [Phase.stepsLeft]

/-- The user's code is not given the record. -/
theorem Rejecting.ne_handling {x : Dispatch} {p : Phase} (h : Rejecting c main r x p)
    (r' : Record) (state : RetryState) : p ≠ .handling r' state := by
  rintro rfl
  cases h

/-- A worker that has a record after a step confronts it as before, or has only now taken it. -/
theorem Confronts.of_step {s : Surroundings} (h : (d.step s b).Confronts r) :
    d.Confronts r ∨ d.worker.record? = none ∧ (d.worker.step s b).worker.phase = .opening r := by
  have hdoes := d.worker.does_step s b
  have hrec : (d.worker.step s b).worker.record? = some r := h.record
  have hmain : d.worker.stage.isMain = false := d.worker.stage_step s b ▸ h.isMain
  rcases record_of_does hdoes hrec with hr | ⟨hnone, -⟩
  · exact .inl ⟨hr, hmain, h.illegible⟩
  · refine .inr ⟨hnone, ?_⟩
    rcases hdoes.of_no_record hnone with hfree | ⟨r', hp⟩
    · rw [hfree] at hrec
      cases hrec
    · rw [Worker.record?, hp] at hrec
      cases hrec
      exact hp

/-- What is decided on a record whose headers say no state. -/
theorem rejecting_opening {w : Worker} (s : Surroundings) (b : Broker) (hp : w.phase = .opening r)
    (hmain : w.stage.isMain = false) (h : r.headers.Illegible) :
    Rejecting w.configuration (w.mainTopic r) r ⟨w.routeOf? s, (w.step s b).events, []⟩
      (w.step s b).worker.phase ∧
    (w.step s b).worker.phase.stepsLeft w.republishTries < w.phase.stepsLeft w.republishTries := by
  obtain ⟨violation, hstate⟩ := Worker.stateOf_of_illegible hmain h
  obtain ⟨hphase, hevents⟩ := Worker.step_opening_of_error (b := b) hp (hstate s.clock.now)
  rw [hphase, hevents, hp]
  rcases w.reject_cases s r violation with
    ⟨letter, stage, hrejects, ⟨he, hnext⟩ | ⟨he, hnext⟩⟩ | ⟨hdead, hnext⟩
  · rw [hnext]
    exact ⟨.publishing hrejects he rfl, by simp [Phase.stepsLeft]⟩
  · rw [hnext]
    exact ⟨.buried hrejects he rfl, by simp [Phase.stepsLeft]⟩
  · rw [hnext]
    exact ⟨.discarded hdead rfl rfl, by simp [Phase.stepsLeft]⟩

theorem rejecting_publishing {w : Worker} {x : Dispatch} {copy : Outgoing} {more : Nat}
    (hb : b.Regular) (s : Surroundings) (hp : w.phase = .publishing r copy more)
    (h : Rejecting c main r x w.phase) (tries : Nat) :
    Rejecting c main r (x.after w s b) (w.step s b).worker.phase ∧
    (w.step s b).worker.phase.stepsLeft tries < w.phase.stepsLeft tries := by
  have hrec : w.record? = some r := h.record?
  rw [after_of_record x s b hrec, Worker.events_publishing hp, List.append_nil]
  rw [hp] at h ⊢
  cases h with
  | publishing h he hc =>
      rcases Worker.publishing_attempt hb hp s with
        ⟨y, -, hgain, hy, hnext⟩ | ⟨e, -, hgain, ⟨less, hless, hnext⟩ | hnext⟩
      · rw [hnext, hgain, hc]
        exact ⟨.published h he rfl hy, by simp [Phase.stepsLeft]⟩
      · rw [hnext, hgain, hc]
        exact ⟨.publishing h he rfl, by simp [Phase.stepsLeft, hless]⟩
      · rw [hnext, hgain, hc]
        exact ⟨.returning h he rfl, by simp [Phase.stepsLeft]⟩

/-- **A step** of a worker that gives its record up: it lets go of the record, or it goes on and has
fewer steps left. -/
theorem Rejecting.step (hd : d.Orderly) (hb : b.Regular) (h : d.Confronts r)
    (hrej : Rejecting d.worker.configuration (d.worker.mainTopic r) r d.dispatch d.worker.phase)
    (s : Surroundings) :
    (d.worker.phase.stepsLeft d.worker.republishTries = 1 ∧
      (d.worker.step s b).worker.record? = none) ∨
    (Rejecting d.worker.configuration (d.worker.mainTopic r) r (d.dispatch.after d.worker s b)
        (d.worker.step s b).worker.phase ∧
      (d.worker.step s b).worker.phase.stepsLeft d.worker.republishTries <
        d.worker.phase.stepsLeft d.worker.republishTries) := by
  have hphase := hrej
  generalize hp : d.worker.phase = p at hphase
  cases hphase with
  | opening _ =>
      have hearly : d.worker.phase.Early r := hp ▸ .opening
      rw [after_of_early hd.fits hearly, ← hp]
      exact .inr (rejecting_opening s b hp h.isMain h.illegible)
  | publishing _ _ _ =>
      rw [← hp]
      exact .inr (rejecting_publishing hb s hp hrej _)
  | published _ _ _ _ | buried _ _ _ | discarded _ _ _ =>
      rw [Worker.step_committing hp]
      exact .inl ⟨rfl, rfl⟩
  | returning _ _ _ =>
      rw [Worker.step_returning hp]
      exact .inl ⟨rfl, rfl⟩

/-- **Every step** of a worker gives up the records whose headers say no state. -/
theorem Contained.step (h : d.Contained) (hd : d.Orderly) (hb : b.Regular) (s : Surroundings) :
    (d.step s b).Contained := by
  intro r hr
  rw [Desk.step, Worker.configuration_step, Worker.mainTopic_step]
  rcases hr.of_step with hr' | ⟨hnone, hp⟩
  · rcases Rejecting.step hd hb hr' (h r hr') s with ⟨-, hnone⟩ | ⟨hrej, -⟩
    · have hrec : (d.worker.step s b).worker.record? = some r := hr.record
      rw [hnone] at hrec
      cases hrec
    · exact hrej
  · rw [after_of_no_record _ s b hnone, hp]
    exact .opening rfl

/-- A worker without a record. -/
theorem contained_of_no_record (h : d.worker.record? = none) : d.Contained := by
  intro r hr
  have hrec := hr.record
  rw [h] at hrec
  cases hrec

end Desk

end Redelivery
