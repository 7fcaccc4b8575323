import Redelivery.Proofs.Broker.Session
import Redelivery.Proofs.Route.Offers
import Redelivery.Worker

/-!
# Worker — what a step can do

A worker deals with one record at a time (`Worker.record?`).  What one step of it can do is said
once, in `Worker.Does`: it rests, takes a record, prepares it, decides what becomes of it, makes a
try to publish the copy, acknowledges the record, gives it back, or leaves the group
(`does_step`).  What it decides is `Worker.Decides`, which goes with the route that the chain
offers (`Resolver.Offers`).

Only a try to publish adds to a log, and only acknowledging, giving back, taking and leaving move
cursors: all other steps are `Quiet`.
-/

namespace Redelivery

/-! ### Waiting -/

namespace Membership

/-- Nothing was taken, acknowledged, given back or published. -/
structure Quiet (m m' : Membership) : Prop where
  topics : m'.broker.topics = m.broker.topics
  cursors : m'.broker.cursors = m.broker.cursors
  alike : Alike m.consumer m'.consumer

theorem Quiet.refl (m : Membership) : m.Quiet m := ⟨rfl, rfl, rfl, rfl, rfl⟩

theorem Quiet.trans {m m' m'' : Membership} (h : m.Quiet m') (h' : m'.Quiet m'') :
    m.Quiet m'' :=
  ⟨h'.topics.trans h.topics, h'.cursors.trans h.cursors, h'.alike.group.trans h.alike.group,
    h'.alike.topics.trans h.alike.topics, h'.alike.held.trans h.alike.held⟩

theorem quiet_pause (m : Membership) : m.Quiet m.pause := ⟨rfl, rfl, rfl, rfl, rfl⟩

theorem quiet_resume (m : Membership) : m.Quiet m.resume := ⟨rfl, rfl, rfl, rfl, rfl⟩

theorem quiet_keepAlive (m : Membership) : m.Quiet m.keepAlive := ⟨rfl, rfl, rfl, rfl, rfl⟩

theorem quiet_finish (result : Except BrokerError WaitOutcome) (m : Membership) :
    m.Quiet (DueWait.finish result m).2 := by
  unfold DueWait.finish
  dsimp only [Pausable.resume]
  split <;> exact m.quiet_resume

theorem quiet_begin (due now : Instant) (s : Shutdown) (m : Membership) :
    m.Quiet (DueWait.begin due now s m).2 := by
  unfold DueWait.begin
  dsimp only [Pausable.pause]
  split
  · exact .refl m
  · split
    · exact m.quiet_pause.trans (quiet_finish _ _)
    · exact m.quiet_pause

theorem quiet_showAlive (w : DueWait) (m : Membership) : m.Quiet (w.showAlive m).2 := by
  unfold DueWait.showAlive
  split
  · exact .refl m
  · exact m.quiet_keepAlive

theorem quiet_wake (w : DueWait) (now : Instant) (s : Shutdown) (seen : Nat) (m : Membership) :
    m.Quiet (w.wake now s seen m).2 := by
  unfold DueWait.wake
  dsimp only
  have halive := quiet_showAlive w m
  split
  · exact quiet_finish _ m
  · split
    · exact quiet_finish _ m
    · split
      · rename_i h
        rw [h] at halive
        exact halive.trans (quiet_finish _ _)
      · rename_i h
        rw [h] at halive
        split
        · exact halive.trans (quiet_finish _ _)
        · exact halive

end Membership

/-! ### Phases -/

/-- The record that a worker deals with. -/
def Phase.record? : Phase → Option Record
  | .opening r | .waiting r _ _ _ | .handling r _ | .publishing r _ _ | .committing r
  | .returning r _ => some r
  | .idle | .polling _ _ | .pausing _ | .closing | .stopped => none

/-- Nothing is decided yet on the record. -/
inductive Phase.Early (r : Record) : Phase → Prop where
  | opening : Early r (.opening r)
  | waiting {state : RetryState} {wait : DueWait} {wakeAt : Nat} :
      Early r (.waiting r state wait wakeAt)
  | handling {state : RetryState} : Early r (.handling r state)

theorem Phase.Early.record? {r : Record} {p : Phase} (h : p.Early r) : p.record? = some r := by
  cases h <;> rfl

namespace Worker

/-- The record that the worker deals with. -/
def record? (w : Worker) : Option Record := w.phase.record?

/-- The worker's consumer and a broker. -/
def membership (w : Worker) (b : Broker) : Membership := ⟨w.consumer, b⟩

/-- The worker as a member of its group. -/
def member (w : Worker) : Member := ⟨w.consumer, w.record?.toList⟩

/-- The route of its record that the worker's next step looks up, if it does. -/
def routeOf? (w : Worker) (s : Surroundings) : Option Route :=
  match w.phase with
  | .opening r =>
      match w.stateOf s.clock.now r with
      | .error violation =>
          some (w.configuration.resolver.deadLetterFor
            (Failure.new FatalKinds.missingRetryHeaders violation.message) .missingRetryHeaders)
      | .ok _ => none
  | .handling r state =>
      (s.handle r).map fun f => w.configuration.resolver.next w.stage (nextCount state.attempts)
        state.firstAttempt f s.clock.now
  | _ => none

/-- What can be decided on a record: it is accepted, or a copy of it is to be published to the
stage of its route, or the handler was given it as a dead letter, or it is discarded. -/
inductive Decides (w : Worker) (s : Surroundings) (r : Record) :
    Phase → List WorkerEvent → Prop where
  | accept {time : Instant} (hr : w.routeOf? s = none) :
      Decides w s r (.committing r) [.handled r time none]
  | copy {route : Route} {stage : Stage} {state : RetryState} {events : List WorkerEvent}
      (hr : w.routeOf? s = some route) (hs : route.stage? = some stage) :
      Decides w s r (.publishing r (copyFor r stage (stage.topicFor (w.mainTopic r)) state)
        w.republishTries) events
  | bury {stage : Stage} {reason : TerminalReason} {handler : DeadLetterHandler}
      {letter : DeadLetter} {answer : Except DeadLetterError Unit} {events : List WorkerEvent}
      (hr : w.routeOf? s = some (.deadLetter stage reason))
      (hh : w.configuration.handler = some handler)
      (he : .buried handler letter answer ∈ events) (hl : letter.record = r) :
      Decides w s r (.committing r) events
  | discard {reason : TerminalReason} {events : List WorkerEvent}
      (hr : w.routeOf? s = some (.discard reason)) : Decides w s r (.committing r) events

theorem Decides.record? {w : Worker} {s : Surroundings} {r : Record} {p : Phase}
    {events : List WorkerEvent} (h : w.Decides s r p events) : p.record? = some r := by
  cases h <;> rfl

/-- **What a step does.** -/
inductive Does (w : Worker) (s : Surroundings) (b : Broker) (t : WorkerStep) : Prop where
  | rest (h : w.record? = none) (hp : t.worker.record? = none)
      (hq : (w.membership b).Quiet (t.worker.membership t.broker)) (he : t.events = [])
  | take {r : Record} (h : w.record? = none)
      (hm : (w.membership b).take = (some r, t.worker.membership t.broker))
      (hp : t.worker.phase = .opening r) (he : t.events = [])
  | prepare {r : Record} (h : w.phase.Early r) (hp : t.worker.phase.Early r)
      (hq : (w.membership b).Quiet (t.worker.membership t.broker)) (he : t.events = [])
      (hr : w.routeOf? s = none)
  | interrupt {r : Record} {why : DispatchError} (h : w.phase.Early r)
      (hp : t.worker.phase = .returning r why)
      (hq : (w.membership b).Quiet (t.worker.membership t.broker)) (he : t.events = [])
      (hr : w.routeOf? s = none)
  | decide {r : Record} (h : w.phase.Early r) (hd : w.Decides s r t.worker.phase t.events)
      (hq : (w.membership b).Quiet (t.worker.membership t.broker))
  | publish {r : Record} {copy : Outgoing} {more : Nat} (h : w.phase = .publishing r copy more)
      (hb : t.broker = (b.publish s.clock.now copy).2) (hc : t.worker.consumer = w.consumer)
      (he : t.events = [])
      (hp : (b.publish s.clock.now copy).1 = .ok () ∧ t.worker.phase = .committing r ∨
        ∃ e, (b.publish s.clock.now copy).1 = .error e ∧
          ((∃ more, t.worker.phase = .publishing r copy more) ∨
            ∃ why, t.worker.phase = .returning r why))
  | commit {r : Record} (h : w.phase = .committing r) (hp : t.worker.record? = none)
      (hm : t.worker.membership t.broker =
        (w.membership b).commit r.topic r.partition r.offset) (he : t.events = [])
  | giveBack {r : Record} {why : DispatchError} (h : w.phase = .returning r why)
      (hp : t.worker.record? = none)
      (hm : t.worker.membership t.broker =
        (w.membership b).rewind r.topic r.partition r.offset) (he : t.events = [])
  | leave (h : w.record? = none) (hp : t.worker.record? = none)
      (hm : t.worker.membership t.broker = (w.membership b).close) (he : t.events = [])

/-! ### Each phase -/

theorem decides_giveUp {w : Worker} {s : Surroundings} {r : Record} {stage : Stage}
    {reason : TerminalReason} (hr : w.routeOf? s = some (.deadLetter stage reason))
    (state : RetryState) (failure : Failure) (events : List WorkerEvent) :
    w.Decides s r (w.giveUp s r stage state failure reason).1
      (events ++ (w.giveUp s r stage state failure reason).2) := by
  unfold giveUp
  dsimp only
  split
  · -- no handler
    exact .copy hr rfl
  · rename_i handler hh
    split
    · -- the handler failed, and the strategy is to publish then
      exact .copy hr rfl
    · exact .bury hr hh (List.mem_append_right _ (List.mem_singleton_self _)) rfl

theorem decides_reject {w : Worker} {s : Surroundings} {r : Record} {violation : HeaderError}
    (hp : w.phase = .opening r) (hs : w.stateOf s.clock.now r = .error violation) :
    w.Decides s r (w.reject s r violation).1 (w.reject s r violation).2 := by
  have hr : w.routeOf? s = some (w.configuration.resolver.deadLetterFor
      (Failure.new FatalKinds.missingRetryHeaders violation.message) .missingRetryHeaders) := by
    simp only [routeOf?, hp, hs]
  have hne := w.configuration.resolver.deadLetterFor_ne_retry
    (Failure.new FatalKinds.missingRetryHeaders violation.message) .missingRetryHeaders
  unfold reject
  dsimp only
  split
  · rename_i h
    exact decides_giveUp (hr.trans (congrArg some h)) _ _ []
  · -- no record is retried whose headers do not say its state
    rename_i hnot
    cases hroute : w.configuration.resolver.deadLetterFor
        (Failure.new FatalKinds.missingRetryHeaders violation.message) .missingRetryHeaders with
    | retry stage => exact absurd hroute (hne stage)
    | deadLetter stage reason => exact absurd hroute (hnot stage reason)
    | discard reason => exact .discard (hr.trans (congrArg some hroute))

theorem decides_handling {w : Worker} {s : Surroundings} {r : Record} {state : RetryState}
    (hp : w.phase = .handling r state) :
    w.Decides s r (w.stepHandling s r state).1 (w.stepHandling s r state).2 := by
  have hr : w.routeOf? s = (s.handle r).map fun f => w.configuration.resolver.next w.stage
      (nextCount state.attempts) state.firstAttempt f s.clock.now := by
    simp only [routeOf?, hp]
  unfold stepHandling
  cases hf : s.handle r with
  | none => exact .accept (by rw [hr, hf]; rfl)
  | some f =>
      rw [hf, Option.map_some] at hr
      dsimp only
      unfold routeFailure
      dsimp only
      split
      · rename_i h
        exact .copy (hr.trans (congrArg some h)) rfl
      · rename_i h
        exact decides_giveUp (hr.trans (congrArg some h)) _ _ [_]
      · rename_i h
        exact .discard (hr.trans (congrArg some h))

theorem does_polling {w : Worker} {s : Surroundings} {b : Broker} {deadline : Nat}
    {seen : Option Nat} (hp : w.phase = .polling deadline seen) :
    w.Does s b (w.stepPolling s (w.membership b) deadline seen) := by
  have h : w.record? = none := by rw [record?, hp]; rfl
  unfold stepPolling
  split
  · -- the signal was set
    exact .rest h rfl (.refl _) rfl
  · split
    · split
      · rename_i r m hm
        exact .take h hm rfl rfl
      · -- there is nothing to take
        rename_i m hm
        obtain ⟨hb, halike⟩ := Membership.take_eq_none hm
        exact .rest h rfl ⟨congrArg Broker.topics hb, congrArg Broker.cursors hb, halike⟩ rfl
    · -- the time is up, or nothing has changed
      split
      · exact .rest h rfl (.refl _) rfl
      · exact .rest h rfl (.refl _) rfl

/-- How a wait may end, with the record decided on or not. -/
theorem afterWait_cases (r : Record) (state : RetryState)
    (result : Except BrokerError WaitOutcome) :
    (afterWait r state result).Early r ∨ ∃ why, afterWait r state result = .returning r why := by
  unfold afterWait
  split
  · exact .inl .handling
  · exact .inr ⟨_, rfl⟩
  · exact .inr ⟨_, rfl⟩

theorem does_afterWait {w : Worker} {s : Surroundings} {b : Broker} {t : WorkerStep} (r : Record)
    (state : RetryState) (result : Except BrokerError WaitOutcome) (h : w.phase.Early r)
    (hp : t.worker.phase = afterWait r state result)
    (hq : (w.membership b).Quiet (t.worker.membership t.broker)) (he : t.events = [])
    (hr : w.routeOf? s = none) : w.Does s b t := by
  rcases afterWait_cases r state result with h' | ⟨why, h'⟩
  · exact .prepare h (hp ▸ h') hq he hr
  · exact .interrupt h (hp.trans h') hq he hr

theorem does_opening {w : Worker} {s : Surroundings} {b : Broker} {r : Record}
    (hp : w.phase = .opening r) : w.Does s b (w.stepOpening s (w.membership b) r) := by
  have h : w.phase.Early r := hp ▸ .opening
  unfold stepOpening
  split
  · rename_i violation hs
    exact .decide h (decides_reject hp hs) (.refl _)
  · rename_i state hs
    have hr : w.routeOf? s = none := by simp only [routeOf?, hp, hs]
    split
    · -- the record is due at any time
      exact .prepare h .handling (.refl _) rfl hr
    · rename_i due _
      have hq := Membership.quiet_begin due s.clock.now s.shutdown (w.membership b)
      split
      · rename_i result m hm
        rw [hm] at hq
        exact does_afterWait r state result h rfl hq rfl hr
      · rename_i wait m hm
        rw [hm] at hq
        exact .prepare h .waiting hq rfl hr

theorem does_waiting {w : Worker} {s : Surroundings} {b : Broker} {r : Record}
    {state : RetryState} {wait : DueWait} {wakeAt : Nat}
    (hp : w.phase = .waiting r state wait wakeAt) :
    w.Does s b (w.stepWaiting s (w.membership b) r state wait) := by
  have h : w.phase.Early r := hp ▸ .waiting
  have hr : w.routeOf? s = none := by simp only [routeOf?, hp]
  have hq := Membership.quiet_wake wait s.clock.now s.shutdown w.seenSignal (w.membership b)
  unfold stepWaiting
  dsimp only
  split
  · rename_i result m hm
    rw [hm] at hq
    exact does_afterWait r state result h rfl hq rfl hr
  · rename_i m hm
    rw [hm] at hq
    exact .prepare h .waiting hq rfl hr

theorem does_publishing {w : Worker} {s : Surroundings} {b : Broker} {r : Record}
    {copy : Outgoing} {more : Nat} (hp : w.phase = .publishing r copy more) :
    w.Does s b (w.stepPublishing s (w.membership b) r copy more) := by
  refine .publish hp rfl rfl rfl ?_
  unfold stepPublishing
  dsimp only [membership]
  cases hres : b.publish s.clock.now copy with
  | mk result b' =>
      cases result with
      | ok u => exact .inl ⟨rfl, rfl⟩
      | error e =>
          refine .inr ⟨e, rfl, ?_⟩
          cases more with
          | zero => exact .inr ⟨_, rfl⟩
          | succ more =>
              -- only a failure that may pass is worth another try
              by_cases ht : e.isTransient = true
              · exact .inl ⟨more, by simp [continueWith, ht]⟩
              · exact .inr ⟨.republish copy.topic e, by simp [continueWith, ht]⟩

theorem does_returning {w : Worker} {s : Surroundings} {b : Broker} {r : Record}
    {why : DispatchError} (hp : w.phase = .returning r why) :
    w.Does s b (w.stepReturning s (w.membership b) r why) := by
  unfold stepReturning
  dsimp only
  split
  · exact .giveBack hp rfl rfl rfl
  · exact .giveBack hp rfl rfl rfl

/-- A worker that waits for its surroundings to change. -/
theorem does_nothing {w : Worker} {s : Surroundings} {b : Broker}
    (hready : w.isReady s b = false) : w.Does s b ⟨w, b, []⟩ := by
  unfold isReady at hready
  split at hready
  · rename_i hp
    have h : w.record? = none := by rw [record?, hp]; rfl
    exact .rest h h (.refl _) rfl
  · rename_i hp
    have h := hp ▸ Phase.Early.waiting
    exact .prepare h h (.refl _) rfl (by simp only [routeOf?, hp])
  · rename_i hp
    have h : w.record? = none := by rw [record?, hp]; rfl
    exact .rest h h (.refl _) rfl
  · rename_i hp
    have h : w.record? = none := by rw [record?, hp]; rfl
    exact .rest h h (.refl _) rfl
  · cases hready

/-- **Every step** is one of these. -/
theorem does_step (w : Worker) (s : Surroundings) (b : Broker) : w.Does s b (w.step s b) := by
  unfold step
  dsimp only
  split
  · rename_i hready
    exact does_nothing (by simpa using hready)
  · cases hp : w.phase with
    | idle =>
        have h : w.record? = none := by rw [record?, hp]; rfl
        refine .rest h ?_ (.refl _) rfl
        simp only [continueWith, stepIdle, record?]
        split <;> rfl
    | polling deadline seen => exact does_polling hp
    | opening r => exact does_opening hp
    | waiting r state wait wakeAt => exact does_waiting hp
    | handling r state => exact .decide (hp ▸ .handling) (decides_handling hp) (.refl _)
    | publishing r copy more => exact does_publishing hp
    | committing r => exact .commit hp rfl rfl rfl
    | returning r why => exact does_returning hp
    | pausing wakeAt =>
        have h : w.record? = none := by rw [record?, hp]; rfl
        refine .rest h ?_ (.refl _) rfl
        simp only [stepPausing, continueWith, record?]
        split <;> split <;> rfl
    | closing => exact .leave (by rw [record?, hp]; rfl) rfl rfl rfl
    | stopped =>
        have h : w.record? = none := by rw [record?, hp]; rfl
        exact .rest h h (.refl _) rfl

/-- A worker that publishes does nothing else. -/
theorem Does.of_publishing {w : Worker} {s : Surroundings} {b : Broker} {t : WorkerStep}
    {r : Record} {copy : Outgoing} {more : Nat} (h : w.Does s b t)
    (hp : w.phase = .publishing r copy more) :
    t.broker = (b.publish s.clock.now copy).2 ∧
      ((b.publish s.clock.now copy).1 = .ok () ∧ t.worker.phase = .committing r ∨
        ∃ e, (b.publish s.clock.now copy).1 = .error e ∧
          ((∃ more, t.worker.phase = .publishing r copy more) ∨
            ∃ why, t.worker.phase = .returning r why)) := by
  cases h with
  | publish h hb _ _ hres =>
      rw [hp] at h
      cases h
      exact ⟨hb, hres⟩
  | rest h _ _ _ | take h _ _ _ | leave h _ _ _ =>
      rw [record?, hp] at h
      cases h
  | prepare h _ _ _ _ | interrupt h _ _ _ _ | decide h _ _ | commit h _ _ _
  | giveBack h _ _ _ =>
      rw [hp] at h
      cases h

/-- A worker without a record has none after a step, or takes one. -/
theorem Does.of_no_record {w : Worker} {s : Surroundings} {b : Broker} {t : WorkerStep}
    (h : w.Does s b t) (hr : w.record? = none) :
    t.worker.record? = none ∨ ∃ r, t.worker.phase = .opening r := by
  cases h with
  | rest _ hp _ _ | commit _ hp _ _ | giveBack _ hp _ _ | leave _ hp _ _ => exact .inl hp
  | take _ _ hp _ => exact .inr ⟨_, hp⟩
  | prepare h _ _ _ _ | interrupt h _ _ _ _ | decide h _ _ =>
      rw [record?, h.record?] at hr
      cases hr
  | publish h _ _ _ _ =>
      rw [record?, h] at hr
      cases hr

/-- What is to be published was decided on in this step, or before. -/
theorem of_step_publishing {w : Worker} {s : Surroundings} {b : Broker} {r : Record}
    {copy : Outgoing} {more : Nat} (hp : (w.step s b).worker.phase = .publishing r copy more) :
    (w.phase.Early r ∧ ∃ route stage state, w.routeOf? s = some route ∧
      route.stage? = some stage ∧
      copy = copyFor r stage (stage.topicFor (w.mainTopic r)) state) ∨
    ∃ more, w.phase = .publishing r copy more := by
  have hdoes := w.does_step s b
  generalize w.step s b = t at hp hdoes
  cases hdoes with
  | rest _ hp' _ _ | commit _ hp' _ _ | giveBack _ hp' _ _ | leave _ hp' _ _ =>
      rw [record?, hp] at hp'
      cases hp'
  | take _ _ hp' _ | interrupt _ hp' _ _ _ =>
      rw [hp] at hp'
      cases hp'
  | prepare _ hp' _ _ _ =>
      rw [hp] at hp'
      cases hp'
  | decide h hd _ =>
      rw [hp] at hd
      cases hd with
      | copy hr hs => exact .inl ⟨h, _, _, _, hr, hs, rfl⟩
  | publish h _ _ _ hp' =>
      rw [hp] at hp'
      rcases hp' with ⟨-, hp'⟩ | ⟨_, -, ⟨_, hp'⟩ | ⟨_, hp'⟩⟩
      · cases hp'
      · cases hp'
        exact .inr ⟨_, h⟩
      · cases hp'

/-- What a worker publishes that has only now decided on its record. -/
theorem publishing_of_early {w : Worker} {s : Surroundings} {b : Broker} {r r' : Record}
    {copy : Outgoing} {more : Nat} (h : w.phase.Early r)
    (hp : (w.step s b).worker.phase = .publishing r' copy more) :
    r' = r ∧ ∃ route stage state, w.routeOf? s = some route ∧ route.stage? = some stage ∧
      copy = copyFor r stage (stage.topicFor (w.mainTopic r)) state := by
  rcases of_step_publishing hp with ⟨h', hroute⟩ | ⟨more, hp'⟩
  · obtain rfl : r' = r := Option.some.inj (h'.record?.symm.trans h.record?)
    exact ⟨rfl, hroute⟩
  · rw [hp'] at h
    cases h

theorem step_idle {w : Worker} {s : Surroundings} {b : Broker} (h : w.phase = .idle) :
    w.step s b = w.continueWith (w.membership b) (w.stepIdle s) [] := by
  simp only [step, isReady, h]
  rfl

/-- A poll that has only now begun. -/
theorem step_polling {w : Worker} {s : Surroundings} {b : Broker} {deadline : Nat}
    (h : w.phase = .polling deadline none) :
    w.step s b = w.stepPolling s (w.membership b) deadline none := by
  simp only [step, isReady, mayTake, h, Bool.true_or]
  rfl

/-- A poll that finds a record. -/
theorem step_polling_of_take {w : Worker} {s : Surroundings} {b : Broker} {deadline : Nat}
    {r : Record} {m : Membership} (h : w.phase = .polling deadline none)
    (hs : s.shutdown.isNewer w.seenSignal = false) (hm : (w.membership b).take = (some r, m)) :
    w.step s b = w.continueWith m (.opening r) [] := by
  rw [step_polling h, stepPolling, hs, if_neg Bool.false_ne_true, mayTake, if_pos rfl, hm]

theorem step_opening {w : Worker} {s : Surroundings} {b : Broker} {r : Record}
    (h : w.phase = .opening r) : w.step s b = w.stepOpening s (w.membership b) r := by
  simp only [step, isReady, h]
  rfl

theorem step_handling {w : Worker} {s : Surroundings} {b : Broker} {r : Record}
    {state : RetryState} (h : w.phase = .handling r state) :
    (w.step s b).worker.phase = (w.stepHandling s r state).1 := by
  simp only [step, isReady, h]
  rfl

theorem step_publishing {w : Worker} {s : Surroundings} {b : Broker} {r : Record}
    {copy : Outgoing} {more : Nat} (h : w.phase = .publishing r copy more) :
    w.step s b = w.stepPublishing s (w.membership b) r copy more := by
  simp only [step, isReady, h]
  rfl

theorem step_committing {w : Worker} {s : Surroundings} {b : Broker} {r : Record}
    (h : w.phase = .committing r) :
    w.step s b = { w with redelivery := w.redelivery.reset }.continueWith
      ((w.membership b).commit r.topic r.partition r.offset) .idle [] := by
  simp only [step, isReady, h]
  rfl

theorem step_returning {w : Worker} {s : Surroundings} {b : Broker} {r : Record}
    {why : DispatchError} (h : w.phase = .returning r why) :
    w.step s b = w.stepReturning s (w.membership b) r why := by
  simp only [step, isReady, h]
  rfl

/-- A worker stays on its stage. -/
theorem step_worker (w : Worker) (s : Surroundings) (b : Broker) :
    ∃ consumer phase seenSignal redelivery,
      (w.step s b).worker = { w with consumer, phase, seenSignal, redelivery } := by
  unfold step
  dsimp only
  split
  · exact ⟨_, _, _, _, rfl⟩
  · split <;> try exact ⟨_, _, _, _, rfl⟩
    · unfold stepPolling
      repeat' split
      all_goals exact ⟨_, _, _, _, rfl⟩
    · unfold stepOpening
      repeat' split
      all_goals exact ⟨_, _, _, _, rfl⟩
    · unfold stepWaiting
      dsimp only
      split
      all_goals exact ⟨_, _, _, _, rfl⟩
    · unfold stepReturning
      dsimp only
      split
      all_goals exact ⟨_, _, _, _, rfl⟩

section

variable (w : Worker) (s : Surroundings) (b : Broker)

@[simp] theorem stage_step : (w.step s b).worker.stage = w.stage := by
  obtain ⟨_, _, _, _, hw⟩ := w.step_worker s b
  rw [hw]
  rfl

@[simp] theorem configuration_step : (w.step s b).worker.configuration = w.configuration := by
  obtain ⟨_, _, _, _, hw⟩ := w.step_worker s b
  rw [hw]

@[simp] theorem republishTries_step : (w.step s b).worker.republishTries = w.republishTries := by
  obtain ⟨_, _, _, _, hw⟩ := w.step_worker s b
  rw [hw]

@[simp] theorem mainTopic_step (r : Record) : (w.step s b).worker.mainTopic r = w.mainTopic r := by
  rw [mainTopic, stage_step, mainTopic]

end

end Worker

end Redelivery
