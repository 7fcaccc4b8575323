import Redelivery.Proofs.Broker.Refusals
import Redelivery.Proofs.Fleet.Alone
import Redelivery.Proofs.Fleet.Conservation
import Redelivery.Proofs.Settings.Creation
import Redelivery.Proofs.Worker.Rejections

/-!
# Fleet — publications that are refused for a while

A worker is alone with a record that the user's code fails on and that is to be passed on to another
stage, and the broker refuses the next publications (`Outage`).  The worker tries to publish the
copy some times and then gives the record back; it takes it again, hands it over again, and so on.

**Outages** (`outlasts_run`).  With `m` more tries after the first, `c` refusals cost `c / (m + 1)`
dispatches in which the record is given back as it was, and so often it is handed over once more.
They cost nothing else: the dispatch after these publishes one copy, which counts one attempt more
than the record, and the record is acknowledged.

This goes for a copy whose topic has the partition that it asks for (`Broker.Accepts`).  If the
topic exists with fewer partitions than the stage was declared with, a record from one of the others
is given back though no publication is refused at all (`run_outOfRange`).
-/

namespace Redelivery

/-- A worker is about to look for a record, and finds one that is to be passed on to a stage, in
surroundings that follow each other. -/
structure Outage (w : Worker) (b : Broker) (r : Record) (stage : Stage) (attempts : UInt32)
    (σ : Nat → Surroundings) : Prop where
  idle : w.phase = .idle
  seenSignal : w.seenSignal = 0
  paused : w.consumer.paused = false
  regular : b.Regular
  /-- The record is the next that the worker's group is handed from its partition, -/
  keeps : b.Keeps r
  cursor : b.cursor (w.cursorId r) = .after r.place.offset false
  topic : r.topic ∈ w.consumer.topics
  /-- and there is none for the worker in other partitions. -/
  alone : ∀ k ∈ (w.membership b).candidates,
    ((w.membership b).available? k.1 k.2).isSome = true → k = (r.topic, r.partition.toNat)
  /-- It says how often it was attempted. -/
  state : ∃ state, w.stateOf 0 r = .ok state ∧ state.attempts = attempts
  /-- The user's code fails on it and its time is never up, so that it is retried on the stage. -/
  timeout : w.configuration.resolver.timeout = none
  fails : ∀ n, ∃ f, (σ n).handle r = some f ∧ ∃ first now, w.configuration.resolver.next w.stage
    (nextCount attempts) first f now = .retry stage
  /-- Nothing is shut down. -/
  shutdown : ∀ n, (σ n).shutdown = {}
  /-- The clock goes on. -/
  start : ∀ n, (σ n).clock.start = (σ 0).clock.start
  goesOn : ∀ t, ∃ k, ∀ n, k ≤ n → t ≤ (σ n).clock.elapsed

/-- The record is given back because the last try to publish its copy was refused.  The group has
acknowledged what comes before it, and is handed it again. -/
def Parting.refused (r : Record) (topic : String) : Parting where
  record := r
  reason := some (.republish topic (.publish (.injected topic)))
  cursor := .after r.place.offset false

/-- The record is acknowledged, with what comes before it. -/
def Parting.acknowledged (r : Record) : Parting where
  record := r
  reason := none
  cursor := .after (r.place.offset + 1) false

/-- There is one copy, which counts one attempt more than the record. -/
def Solo.Copied (w : Worker) (r : Record) (stage : Stage) (attempts : UInt32) (x : Solo) : Prop :=
  ∃ y c state, x.copies = [y] ∧ y.topic = stage.topicFor (w.mainTopic r) ∧
    x.broker.recordAt? y = some c ∧ RetryState.read c.headers = .ok (some state) ∧
    state.attempts.toNat = attempts.toNat + 1

/-- The copy is published, and the record is about to be acknowledged. -/
structure Solo.Settling (w : Worker) (r : Record) (stage : Stage) (attempts : UInt32)
    (events : List WorkerEvent) (partings : List Parting) (x : Solo) : Prop where
  phase : x.worker.phase = .committing r
  group : x.worker.consumer.group = w.consumer.group
  cursor : x.broker.cursor (w.cursorId r) = .after r.place.offset true
  events : x.events = events
  partings : x.partings = partings
  copied : x.Copied w r stage attempts

/-- What comes of an outage. -/
structure Solo.Outlasts (w : Worker) (b : Broker) (r : Record) (stage : Stage) (attempts : UInt32)
    (x : Solo) : Prop where
  /-- The record is given back as it was so often, and then it is acknowledged. -/
  partings : x.partings =
    List.replicate (b.refusing / (w.republishTries + 1))
      (.refused r (stage.topicFor (w.mainTopic r))) ++ [.acknowledged r]
  /-- It is handed over each time. -/
  handled : x.events.length = b.refusing / (w.republishTries + 1) + 1
  failed : ∀ e ∈ x.events, ∃ time f, e = .handled r time (some f)
  copied : x.Copied w r stage attempts

section

variable {w : Worker} {b : Broker} {r : Record} {stage : Stage} {attempts : UInt32}
  {σ : Nat → Surroundings} {x : Solo} {p q : Phase} {f g : Bool} {k : Nat}
  {es : List WorkerEvent} {ps : List Parting} {s : Surroundings}

namespace Solo

/-- The worker and its broker in the course of an outage: all is as it was, but for the phase, the
cursor of the record's partition, which may be in flight, the refusals that are left, and what was
noted. -/
structure At (w : Worker) (b : Broker) (r : Record) (p : Phase) (inFlight : Bool) (left : Nat)
    (events : List WorkerEvent) (partings : List Parting) (x : Solo) : Prop where
  phase : x.worker.phase = p
  stage : x.worker.stage = w.stage
  configuration : x.worker.configuration = w.configuration
  republishTries : x.worker.republishTries = w.republishTries
  seenSignal : x.worker.seenSignal = 0
  paused : x.worker.consumer.paused = x.worker.phase.isWaiting
  group : x.worker.consumer.group = w.consumer.group
  consumed : x.worker.consumer.topics = w.consumer.topics
  topics : x.broker.topics = b.topics
  cursor : ∀ id, x.broker.cursor id =
    if id = w.cursorId r then .after r.place.offset inFlight else b.cursor id
  refusing : x.broker.refusing = left
  events : x.events = events
  copies : x.copies = []
  partings : x.partings = partings

theorem At.cursorId (h : x.At w b r p f k es ps) (r' : Record) :
    x.worker.cursorId r' = w.cursorId r' := by
  rw [Worker.cursorId, h.group, Worker.cursorId]

theorem At.mainTopic (h : x.At w b r p f k es ps) (r' : Record) :
    x.worker.mainTopic r' = w.mainTopic r' := by
  rw [Worker.mainTopic, h.stage, Worker.mainTopic]

/-- **A step** that leaves the topics alone. -/
theorem At.step (h : x.At w b r p f k es ps) (hs : s.shutdown = {})
    (hp : (x.worker.step s x.broker).worker.phase = q)
    (ht : (x.worker.step s x.broker).broker.topics = x.broker.topics)
    (hc : ∀ id, (x.worker.step s x.broker).broker.cursor id =
      if id = w.cursorId r then .after r.place.offset g else b.cursor id) :
    (x.step s).At w b r q g (x.worker.step s x.broker).broker.refusing
      (es ++ (x.worker.step s x.broker).events)
      (ps ++ x.worker.partings (x.worker.step s x.broker).broker) := by
  obtain ⟨hg, hconsumed⟩ := Desk.group_of_does (x.worker.does_step s x.broker)
  have hgained : x.broker.gained (x.worker.step s x.broker).broker = [] :=
    Broker.gained_of_log_eq (Broker.log_congr ht)
  exact {
    phase := hp
    stage := (x.worker.stage_step s x.broker).trans h.stage
    configuration := (x.worker.configuration_step s x.broker).trans h.configuration
    republishTries := (x.worker.republishTries_step s x.broker).trans h.republishTries
    seenSignal := (Worker.seenSignal_step (by rw [hs, h.seenSignal])).trans h.seenSignal
    paused := Worker.paused_step h.paused
    group := hg.trans h.group
    consumed := hconsumed.trans h.consumed
    topics := ht.trans h.topics
    cursor := hc
    refusing := rfl
    events := congrArg (· ++ _) h.events
    copies := by rw [Solo.step, h.copies, hgained]; rfl
    partings := congrArg (· ++ _) h.partings }

/-- A step that leaves all topics and cursors alone, of a worker that does not let go of its
record. -/
theorem At.continueWith (h : x.At w b r p f k es ps) (hs : s.shutdown = {}) {m : Membership}
    {events : List WorkerEvent}
    (hstep : x.worker.step s x.broker = x.worker.continueWith m q events)
    (ht : m.broker.topics = x.broker.topics) (hc : m.broker.cursors = x.broker.cursors)
    (hparts : ∀ b', x.worker.partings b' = []) :
    (x.step s).At w b r q f m.broker.refusing (es ++ events) ps := by
  have hnext := h.step (g := f) hs (congrArg (·.worker.phase) hstep) (by rw [hstep]; exact ht)
    fun id => by
      rw [hstep]
      exact (Broker.cursor_congr hc id).trans (h.cursor id)
  rwa [hstep, hparts, List.append_nil] at hnext

/-- A step in which nothing is taken or let go of, and that nobody notices. -/
theorem At.quiet (h : x.At w b r p f k es ps) (hs : s.shutdown = {})
    (hpub : ∀ r copy more, p ≠ .publishing r copy more)
    (hparts : ∀ b', x.worker.partings b' = [])
    (hq : (x.worker.membership x.broker).Quiet
      ((x.worker.step s x.broker).worker.membership (x.worker.step s x.broker).broker))
    (he : (x.worker.step s x.broker).events = [])
    (hp : (x.worker.step s x.broker).worker.phase = q) :
    (x.step s).At w b r q f k es ps := by
  have hstep := h.step (g := f) hs hp hq.topics fun id =>
    (Broker.cursor_congr hq.cursors id).trans (h.cursor id)
  rwa [he, hparts, List.append_nil, List.append_nil,
    Worker.refusing_step (h.phase ▸ hpub), h.refusing] at hstep

/-! ### Taking the record -/

theorem At.idle (h : x.At w b r .idle false k es ps) (hs : s.shutdown = {}) :
    ∃ deadline, (x.step s).At w b r (.polling deadline none) false k es ps := by
  have hstep := Worker.step_idle (s := s) (b := x.broker) h.phase
  have hp : (x.worker.step s x.broker).worker.phase =
      .polling (s.clock.elapsed + x.worker.pollTimeout.toNat) none := by
    rw [hstep, Worker.stepIdle, hs]
    rfl
  refine ⟨_, h.quiet hs (by simp) (fun _ => by simp [Worker.partings, h.phase]) ?_ ?_ hp⟩
  · rw [hstep]
    exact .refl _
  · rw [hstep]
    rfl

/-- As long as the record is not in flight the worker finds what it found at first. -/
theorem At.membership (h : x.At w b r p false k es ps)
    (hcur : b.cursor (w.cursorId r) = .after r.place.offset false) :
    (x.worker.membership x.broker).candidates = (w.membership b).candidates ∧
      ∀ t q, (x.worker.membership x.broker).available? t q = (w.membership b).available? t q := by
  have hcursor : ∀ id, x.broker.cursor id = b.cursor id := by
    intro id
    rw [h.cursor]
    split
    · rename_i hid
      rw [hid, hcur]
    · rfl
  constructor
  · simp only [Membership.candidates, Worker.membership, h.consumed, Broker.partitionCount,
      Broker.partitions, h.topics]
  · intro t q
    simp only [Membership.available?, Membership.cursorId, Worker.membership, h.group, hcursor,
      Broker.log_congr h.topics]
    rfl

end Solo

namespace Outage

variable {n : Nat}

/-- **The record is found**, and no other. -/
theorem take_eq (h : Outage w b r stage attempts σ) (hx : x.At w b r p false k es ps)
    (hp : p.isWaiting = false) : ∃ m, (x.worker.membership x.broker).take = (some r, m) := by
  obtain ⟨hcand, hav⟩ := hx.membership h.cursor
  obtain ⟨e, he, hr⟩ : ∃ e, (w.membership b).available? r.topic r.partition.toNat =
      some (r.offset, e) ∧ r = Broker.recordOf r.topic r.partition.toNat r.offset.toNat e :=
    Fleet.available?_eq h.keeps h.cursor
  have hfinds : (x.worker.membership x.broker).Finds := by
    obtain ⟨q, o, e', hlog, hr'⟩ := h.keeps
    have hq : r.partition.toNat = q := by
      rw [hr']
      rfl
    refine ⟨(r.topic, r.partition.toNat), ?_, by rw [hav, he]; rfl⟩
    rw [hcand, Membership.mem_candidates, hq]
    exact ⟨h.topic, Broker.lt_partitionCount hlog⟩
  obtain ⟨r', m, hm⟩ := hfinds.take (hx.paused.trans (by rw [hx.phase, hp]))
  obtain ⟨q, o, e', hmem, hav', hr'⟩ := Membership.available?_of_take hm
  rw [hcand] at hmem
  rw [hav] at hav'
  -- what was taken was there to be taken, and so it is the record
  obtain ⟨htopic, hpart⟩ := Prod.mk.inj (h.alone _ hmem (by rw [hav']; rfl))
  rw [htopic, hpart, he] at hav'
  obtain ⟨rfl, rfl⟩ := Prod.mk.inj (Option.some.inj hav')
  rw [htopic, hpart, ← hr] at hr'
  exact ⟨m, hr' ▸ hm⟩

/-- It is taken. -/
theorem polling (h : Outage w b r stage attempts σ) {deadline : Nat}
    (hx : x.At w b r (.polling deadline none) false k es ps) :
    (x.step (σ n)).At w b r (.opening r) true k es ps := by
  obtain ⟨m, hm⟩ := h.take_eq hx rfl
  have hs := h.shutdown n
  have hnewer : (σ n).shutdown.isNewer x.worker.seenSignal = false := by
    rw [hs, hx.seenSignal]
    rfl
  have hstep := Worker.step_polling_of_take hx.phase hnewer hm
  obtain ⟨_, _, -, -, -, -, hb, -⟩ := Membership.take_eq_some hm
  have hnext := hx.step (s := σ n) (q := .opening r) (g := true) hs (by rw [hstep]; rfl) ?_ ?_
  · rw [Worker.refusing_step (by simp [hx.phase]), hx.refusing, hstep] at hnext
    simpa [Worker.continueWith, Worker.partings, hx.phase] using hnext
  · rw [hstep]
    change m.broker.topics = _
    rw [hb]
    rfl
  · intro id
    rw [hstep]
    change m.broker.cursor id = _
    have hid : (x.worker.membership x.broker).cursorId r.topic r.partition = w.cursorId r :=
      hx.cursorId r
    rw [hb, hid, Broker.cursor_setCursor]
    split
    · change { x.broker.cursor (w.cursorId r) with
        next := (x.broker.cursor (w.cursorId r)).next + 1, inFlight := true } = _
      rw [hx.cursor, if_pos rfl]
      simp [Cursor.after]
    · rename_i hne
      exact (hx.cursor id).trans (if_neg hne)

/-! ### Waiting until the record is due -/

/-- A step before anything is decided on the record. -/
theorem prepare (h : Outage w b r stage attempts σ) (hx : x.At w b r p true k es ps)
    (hp : p.Early r) (hq : q.Early r)
    (hphase : (x.worker.step (σ n) x.broker).worker.phase = q) :
    (x.step (σ n)).At w b r q true k es ps := by
  obtain ⟨hquiet, he⟩ :=
    (x.worker.does_step (σ n) x.broker).of_early (hx.phase ▸ hp) (hphase ▸ hq)
  refine hx.quiet (h.shutdown n) ?_ (fun _ => ?_) hquiet he hphase
  · rintro _ _ _ rfl
    cases hp
  · rw [Worker.partings, hx.phase]
    cases hp <;> rfl

/-- The time comes at which the record is due. -/
theorem comes (h : Outage w b r stage attempts σ) (due : Instant) :
    ∃ k, ∀ n, k ≤ n → due.toInt ≤ (σ n).clock.now.toInt := by
  obtain ⟨k, hk⟩ := h.goesOn (due.toInt - (σ 0).clock.start.toInt).toNat
  refine ⟨k, fun n hn => ?_⟩
  have hle := hk n hn
  have hmax := Int64.toInt_le due
  rw [Clock.now, Instant.toInt_nearest, h.start n]
  omega

/-- A worker that waits for its record wakes. -/
theorem wakes (h : Outage w b r stage attempts σ) {state : RetryState} {wait : DueWait}
    {wakeAt : Nat} (hx : x.At w b r (.waiting r state wait wakeAt) true k es ps)
    (hready : x.worker.isReady (σ n) x.broker = true) :
    (wait.due.toInt ≤ (σ n).clock.now.toInt ∧
      (x.step (σ n)).At w b r (.handling r state) true k es ps) ∨
    (¬ wait.due.toInt ≤ (σ n).clock.now.toInt ∧ ∃ wakeAt,
      (x.step (σ n)).At w b r (.waiting r state wait.again wakeAt) true k es ps) := by
  have hs := h.shutdown n
  have hstep := Worker.step_waiting (s := σ n) (b := x.broker) hx.phase
  rw [if_pos hready, Worker.stepWaiting] at hstep
  have hwake := DueWait.fst_wake (s := (σ n).shutdown) (by rw [hs]) wait (σ n).clock.now
    x.worker.seenSignal (x.worker.membership x.broker)
  rw [if_neg (by rw [hs, hx.seenSignal]; decide)] at hwake
  generalize wait.wake (σ n).clock.now (σ n).shutdown x.worker.seenSignal
    (x.worker.membership x.broker) = woken at hstep hwake
  obtain ⟨result, m⟩ := woken
  dsimp only at hwake hstep
  split at hwake
  · rename_i hdue
    subst hwake
    exact .inl ⟨hdue, h.prepare hx .waiting .handling (by rw [hstep]; rfl)⟩
  · rename_i hdue
    subst hwake
    exact .inr ⟨hdue, _, h.prepare hx .waiting .waiting (by rw [hstep]; rfl)⟩

/-- **A record that is waited for** is handed over some time. -/
theorem waiting (h : Outage w b r stage attempts σ) {state : RetryState} {wait : DueWait}
    {wakeAt : Nat} (hx : x.At w b r (.waiting r state wait wakeAt) true k es ps) (n : Nat) :
    x.Leads σ (fun _ y => y.At w b r (.handling r state) true k es ps) n := by
  obtain ⟨last, hlast⟩ := h.comes wait.due
  -- the number of moments until the record is due for good
  obtain ⟨d, hd⟩ : ∃ d, last ≤ n + d := ⟨last, by omega⟩
  induction d generalizing n x wait wakeAt with
  | zero =>
      refine (Solo.leads_awake (t := wakeAt) (by rw [Worker.deadline?, hx.phase])
        (h.goesOn wakeAt) n).trans ?_
      rintro m _ - ⟨rfl, hm, hready⟩
      rcases h.wakes hx hready with ⟨-, hnext⟩ | ⟨hdue, -⟩
      · exact .later (.here hnext)
      · exact absurd (hlast m (by omega)) hdue
  | succ d ih =>
      refine (Solo.leads_awake (t := wakeAt) (by rw [Worker.deadline?, hx.phase])
        (h.goesOn wakeAt) n).trans ?_
      rintro m _ - ⟨rfl, hm, hready⟩
      rcases h.wakes hx hready with ⟨-, hnext⟩ | ⟨-, wakeAt, hnext⟩
      · exact .later (.here hnext)
      · exact .later (ih hnext (m + 1) hlast (by omega))

/-- The state of the record is read, and the worker hands it over when it is due. -/
theorem opening (h : Outage w b r stage attempts σ)
    (hx : x.At w b r (.opening r) true k es ps) (n : Nat) :
    x.Leads σ (fun _ y => ∃ state, state.attempts = attempts ∧
      y.At w b r (.handling r state) true k es ps) n := by
  obtain ⟨state₀, hstate₀, ha₀⟩ := h.state
  obtain ⟨state, hstate, ha⟩ := Worker.exists_stateOf hstate₀ (σ n).clock.now
  have hstate' : x.worker.stateOf (σ n).clock.now r = .ok state := by
    rw [Worker.stateOf, hx.stage]
    exact hstate
  have hstep := Worker.step_opening (s := σ n) (b := x.broker) hx.phase
  simp only [Worker.stepOpening, hstate'] at hstep
  refine .later ?_
  cases hdue : state.dueAt with
  | none =>
      rw [hdue] at hstep
      exact .here ⟨state, ha.trans ha₀, h.prepare hx .opening .handling (by rw [hstep]; rfl)⟩
  | some due =>
      rw [hdue] at hstep
      dsimp only at hstep
      rcases DueWait.begin_cases due (σ n).clock.now (σ n).shutdown
        (x.worker.membership x.broker) with
        ⟨-, hbegin⟩ | ⟨_, _, hpause, -⟩ | ⟨_, -, hreq, -⟩ | ⟨y, wait, -, -, hbegin⟩
      · rw [hbegin] at hstep
        exact .here ⟨state, ha.trans ha₀, h.prepare hx .opening .handling (by rw [hstep]; rfl)⟩
      · cases hpause
      · rw [h.shutdown n] at hreq
        cases hreq
      · rw [hbegin] at hstep
        exact (h.waiting (h.prepare hx .opening .waiting (by rw [hstep]; rfl)) (n + 1)).trans
          fun _ _ _ hy => .here ⟨state, ha.trans ha₀, hy⟩

/-! ### Handing the record over -/

/-- **The record is handed over**, fails, and a copy of it is to be published. -/
theorem handling (h : Outage w b r stage attempts σ) {state : RetryState}
    (hx : x.At w b r (.handling r state) true k es ps) (ha : state.attempts = attempts) (n : Nat) :
    ∃ f due, (x.step (σ n)).At w b r
      (.publishing r (Worker.copyFor r stage (stage.topicFor (w.mainTopic r))
        (state.nextHop f due)) w.republishTries) true k
      (es ++ [.handled r (σ n).clock.now (some f)]) ps := by
  obtain ⟨f, hf, first, now, hretry⟩ := h.fails n
  have hroute : x.worker.configuration.resolver.next x.worker.stage (nextCount state.attempts)
      state.firstAttempt f (σ n).clock.now = .retry stage := by
    rw [hx.configuration, hx.stage, ha, ← hretry]
    exact Resolver.next_eq_of_timeout h.timeout _ _ _ _ _ _
  have hstep : x.worker.step (σ n) x.broker = x.worker.continueWith
      (x.worker.membership x.broker)
      (.publishing r (Worker.copyFor r stage (stage.topicFor (w.mainTopic r))
        (state.nextHop f ((σ n).clock.now.after stage.delay))) w.republishTries)
      [.handled r (σ n).clock.now (some f)] := by
    simp only [Worker.step, Worker.isReady, hx.phase, Worker.stepHandling, hf,
      Worker.routeFailure, hroute, hx.mainTopic, hx.republishTries]
    rfl
  have hnext := hx.continueWith (h.shutdown n) hstep rfl rfl
    fun _ => by simp only [Worker.partings, hx.phase]
  rw [Worker.membership, hx.refusing] at hnext
  exact ⟨f, _, hnext⟩

/-! ### Publishing the copy -/

/-- A try that is refused: after the last one the record is given back. -/
theorem publishing_refused (h : Outage w b r stage attempts σ) {copy : Outgoing} {more left : Nat}
    (hx : x.At w b r (.publishing r copy more) true (left + 1) es ps) (n : Nat) :
    (x.step (σ n)).At w b r
      (match more with
        | more + 1 => .publishing r copy more
        | 0 => .returning r (.republish copy.topic (.publish (.injected copy.topic))))
      true left es ps := by
  have hpublish : x.broker.publish (σ n).clock.now copy =
      (.error (.publish (.injected copy.topic)), { x.broker with refusing := left }) :=
    Broker.publish_eq_error_iff.mpr (.injected hx.refusing)
  have hstep := Worker.step_publishing (s := σ n) (b := x.broker) hx.phase
  simp only [Worker.stepPublishing, Worker.membership, hpublish] at hstep
  have hnext := hx.continueWith (h.shutdown n) hstep rfl rfl
    fun _ => by simp only [Worker.partings, hx.phase]
  rw [List.append_nil] at hnext
  cases more <;> exact hnext

/-- As many tries as there are refused, and one more: the record is given back. -/
theorem exhausts (h : Outage w b r stage attempts σ) {copy : Outgoing} {more : Nat}
    (hx : x.At w b r (.publishing r copy more) true (k + more + 1) es ps) (n : Nat) :
    x.Leads σ (fun _ y => y.At w b r
      (.returning r (.republish copy.topic (.publish (.injected copy.topic)))) true k es ps) n := by
  induction more generalizing x n with
  | zero => exact .later (.here (h.publishing_refused hx n))
  | succ more ih => exact .later (ih (h.publishing_refused hx n) (n + 1))

/-- Fewer tries are refused than there are. -/
theorem passes (h : Outage w b r stage attempts σ) {copy : Outgoing} {more : Nat}
    (hx : x.At w b r (.publishing r copy (more + k)) true k es ps) (n : Nat) :
    x.Leads σ (fun _ y => y.At w b r (.publishing r copy more) true 0 es ps) n := by
  induction k generalizing x n with
  | zero => exact .here hx
  | succ k ih => exact .later (ih (h.publishing_refused hx n) (n + 1))

/-- The attempt that the copy counts is one that fits the counter. -/
theorem toNat_nextCount (h : Outage w b r stage attempts σ) :
    (nextCount attempts).toNat = attempts.toNat + 1 := by
  obtain ⟨_, -, _, _, hretry⟩ := h.fails 0
  exact Resolver.toNat_nextCount_of_next hretry

/-- **The copy is published**, now that no publication is refused. -/
theorem published (h : Outage w b r stage attempts σ)
    (hacc : b.Accepts (stage.topicFor (w.mainTopic r)) (stage.preservedPartition r.partition))
    {state : RetryState} {more : Nat} {failure : Failure} {due : Instant}
    (ha : state.attempts = attempts)
    (hx : x.At w b r (.publishing r (Worker.copyFor r stage (stage.topicFor (w.mainTopic r))
      (state.nextHop failure due)) more) true 0 es ps) (n : Nat) :
    (x.step (σ n)).Settling w r stage attempts es ps := by
  have hregular : x.broker.Regular := h.regular.congr hx.topics
  have hbroker := congrArg WorkerStep.broker
    (Worker.step_publishing (s := σ n) (b := x.broker) hx.phase)
  have hok := Broker.Accepts.fst_publish (r := Worker.copyFor r stage
    (stage.topicFor (w.mainTopic r)) (state.nextHop failure due)) (hacc.congr hx.topics)
    hx.refusing (σ n).clock.now
  rcases Worker.publishing_attempt hregular hx.phase (σ n) with
    ⟨y, -, hgained, hy, hphase⟩ | ⟨e, he, -⟩
  · exact {
      phase := hphase
      group := (Desk.group_of_does (x.worker.does_step _ _)).1.trans hx.group
      cursor := by
        have hcursor := hx.cursor (w.cursorId r)
        rw [if_pos rfl] at hcursor
        refine (Broker.cursor_congr ?_ _).trans hcursor
        exact (congrArg Broker.cursors hbroker).trans (Broker.cursors_publish _ _ _)
      events := by
        rw [Solo.step, Worker.events_publishing hx.phase, hx.events, List.append_nil]
      partings := by
        simp only [Solo.step, Worker.partings, hx.phase, hx.partings, List.append_nil]
      copied := by
        have hcopies : (x.step (σ n)).copies = [y] := by
          rw [Solo.step, hx.copies, hgained]
          rfl
        have hrecord := Broker.recordAt?_of_gained (y := y) hregular
          (hbroker ▸ hgained ▸ List.mem_singleton_self y)
        refine ⟨y, _, _, hcopies, hy, (congrArg (Broker.recordAt? · y) hbroker).trans hrecord,
          RetryState.read_nextHop state failure due r.headers, ?_⟩
        exact (congrArg (fun n => (nextCount n).toNat) ha).trans h.toNat_nextCount }
  · rw [hok] at he
    cases he

/-- The record is acknowledged. -/
theorem committing (h : Outage w b r stage attempts σ)
    (hx : x.Settling w r stage attempts es ps) (s : Surroundings) :
    (x.step s).events = es ∧ (x.step s).partings = ps ++ [.acknowledged r] ∧
      (x.step s).Copied w r stage attempts := by
  have hstep := Worker.step_committing (s := s) (b := x.broker) hx.phase
  have hid : (x.worker.membership x.broker).cursorId r.topic r.partition = w.cursorId r := by
    rw [Worker.cursorId, ← hx.group]
    rfl
  have hcursor : (x.worker.step s x.broker).broker.cursor (w.cursorId r) =
      .after (r.place.offset + 1) false := by
    rw [hstep]
    refine (Membership.cursor_release _ r.topic r.partition _ _).trans ((if_pos hid.symm).trans ?_)
    rw [hid, ← h.keeps.coordinates.2]
    change Cursor.mk (max (x.broker.cursor (w.cursorId r)).next _)
      (max (x.broker.cursor (w.cursorId r)).committed _) false = _
    have hle : (r.place.offset : Int) ≤ r.place.offset + 1 := by omega
    rw [hx.cursor]
    simp [Cursor.after, hle]
  have htopics : (x.worker.step s x.broker).broker.topics = x.broker.topics := by
    rw [hstep]
    rfl
  refine ⟨?_, ?_, ?_⟩
  · rw [Solo.step, hstep]
    exact (List.append_nil _).trans hx.events
  · have hown : x.worker.cursorId r = w.cursorId r := hid
    simp only [Solo.step, Worker.partings, hx.phase, hx.partings, hown, hcursor]
    rfl
  · obtain ⟨y, c, state, hcopies, hy, hrecord, hread, hattempts⟩ := hx.copied
    refine ⟨y, c, state, ?_, hy, ?_, hread, hattempts⟩
    · rw [Solo.step, Broker.gained_of_log_eq (Broker.log_congr htopics)]
      exact (List.append_nil _).trans hcopies
    · exact (Broker.Extends.of_log_eq (Broker.log_congr htopics)).recordAt? hrecord

/-! ### Giving the record back -/

/-- The record is given back, and the worker's group is to be handed it again. -/
theorem returning (h : Outage w b r stage attempts σ) {topic : String} {e : BrokerError}
    (hx : x.At w b r (.returning r (.republish topic e)) true k es ps) (n : Nat) :
    ∃ wakeAt, (x.step (σ n)).At w b r (.pausing wakeAt) false k es
      (ps ++ [⟨r, some (.republish topic e), .after r.place.offset false⟩]) := by
  have hstep := Worker.step_returning (s := σ n) (b := x.broker) hx.phase
  simp only [Worker.stepReturning] at hstep
  have hcursor (id : CursorId) : (x.worker.step (σ n) x.broker).broker.cursor id =
      if id = w.cursorId r then .after r.place.offset false else b.cursor id := by
    have hid : (x.worker.membership x.broker).cursorId r.topic r.partition = w.cursorId r :=
      hx.cursorId r
    rw [hstep]
    refine (Membership.cursor_release _ r.topic r.partition _ id).trans ?_
    rw [hid]
    split
    · change { x.broker.cursor (w.cursorId r) with
        next := max r.offset (x.broker.cursor (w.cursorId r)).committed, inFlight := false } = _
      rw [hx.cursor, if_pos rfl, ← h.keeps.coordinates.2]
      simp [Cursor.after]
    · rename_i hne
      exact (hx.cursor id).trans (if_neg hne)
  have hnext := hx.step (g := false) (h.shutdown n) (congrArg (·.worker.phase) hstep)
    (by rw [hstep]; rfl) hcursor
  rw [Worker.refusing_step (by simp [hx.phase]), hx.refusing] at hnext
  have hparts : x.worker.partings (x.worker.step (σ n) x.broker).broker =
      [⟨r, some (.republish topic e), .after r.place.offset false⟩] := by
    simp only [Worker.partings, hx.phase, hcursor, hx.cursorId, if_true]
  have hevents : (x.worker.step (σ n) x.broker).events = [] := by
    rw [hstep]
    rfl
  rw [hparts, hevents, List.append_nil] at hnext
  exact ⟨_, hnext⟩

/-- The worker goes back to the top when the pause is over. -/
theorem pausing (h : Outage w b r stage attempts σ) {wakeAt : Nat}
    (hx : x.At w b r (.pausing wakeAt) false k es ps) (n : Nat) :
    x.Leads σ (fun _ y => y.At w b r .idle false k es ps) n := by
  refine (Solo.leads_awake (t := wakeAt) (by rw [Worker.deadline?, hx.phase])
    (h.goesOn wakeAt) n).trans ?_
  rintro m y - ⟨rfl, -, hready⟩
  have hs := h.shutdown m
  have hstep : y.worker.step (σ m) y.broker =
      y.worker.stepPausing (σ m) (y.worker.membership y.broker) := by
    simp only [Worker.step, hready, hx.phase]
    rfl
  have hp : (y.worker.step (σ m) y.broker).worker.phase = .idle := by
    rw [hstep, Worker.stepPausing, hs, hx.seenSignal]
    rfl
  refine .later (.here (hx.quiet hs (by simp) (fun _ => ?_) ?_ ?_ hp))
  · simp only [Worker.partings, hx.phase]
  · rw [hstep]
    exact .refl _
  · rw [hstep]
    rfl

/-! ### Rounds -/

/-- A worker that is about to look for a record comes to publish a copy of it. -/
theorem attempt (h : Outage w b r stage attempts σ) (hx : x.At w b r .idle false k es ps)
    (n : Nat) :
    x.Leads σ (fun _ y => ∃ (state : RetryState) (failure : Failure) (due time : Instant),
      state.attempts = attempts ∧
        y.At w b r (.publishing r (Worker.copyFor r stage (stage.topicFor (w.mainTopic r))
          (state.nextHop failure due)) w.republishTries) true k
          (es ++ [.handled r time (some failure)]) ps) n := by
  obtain ⟨deadline, hpoll⟩ := hx.idle (h.shutdown n)
  refine .later (.later ((h.opening (h.polling (n := n + 1) hpoll) (n + 2)).trans ?_))
  rintro m y - ⟨state, ha, hy⟩
  obtain ⟨failure, due, hnext⟩ := h.handling hy ha m
  exact .later (.here ⟨state, failure, due, _, ha, hnext⟩)

/-- **Round after round**, with the number of those that are over. -/
theorem rounds (h : Outage w b r stage attempts σ)
    (hacc : b.Accepts (stage.topicFor (w.mainTopic r)) (stage.preservedPartition r.partition))
    {j : Nat} (hj : b.refusing = k + j * (w.republishTries + 1))
    (hx : x.At w b r .idle false k es
      (List.replicate j (.refused r (stage.topicFor (w.mainTopic r)))))
    (hlen : es.length = j) (hfail : ∀ e ∈ es, ∃ time failure, e = .handled r time (some failure))
    (n : Nat) : x.Leads σ (fun _ y => y.Outlasts w b r stage attempts) n := by
  induction k using Nat.strongRecOn generalizing x es j n with
  | ind k ih =>
      refine (h.attempt hx n).trans ?_
      rintro m y - ⟨state, failure, due, time, ha, hy⟩
      have hlen' : (es ++ [WorkerEvent.handled r time (some failure)]).length = j + 1 := by
        simp [hlen]
      have hfail' : ∀ e ∈ es ++ [WorkerEvent.handled r time (some failure)],
          ∃ time failure, e = .handled r time (some failure) := by
        simpa [or_imp, forall_and] using hfail
      rcases Nat.lt_or_ge w.republishTries k with hlt | hle
      · -- all tries are refused, and the next round begins
        obtain ⟨left, rfl⟩ : ∃ left, k = left + w.republishTries + 1 :=
          ⟨k - (w.republishTries + 1), by omega⟩
        refine (h.exhausts hy m).trans fun m y _ hy => ?_
        obtain ⟨wakeAt, hy⟩ := h.returning hy m
        refine .later ((h.pausing hy (m + 1)).trans fun m y _ hy => ?_)
        refine ih left (by omega) (j := j + 1) ?_ ?_ hlen' hfail' m
        · rw [hj, Nat.succ_mul]
          omega
        · rw [List.replicate_succ']
          exact hy
      · -- one is not
        obtain ⟨more, hmore⟩ : ∃ more, w.republishTries = more + k :=
          ⟨w.republishTries - k, by omega⟩
        rw [hmore] at hy
        refine (h.passes hy m).trans fun m y _ hy => ?_
        obtain ⟨hevents, hpartings, hcopied⟩ :=
          h.committing (h.published hacc ha hy m) (σ (m + 1))
        have hquot : b.refusing / (w.republishTries + 1) = j := by
          rw [hj, Nat.add_mul_div_right _ _ (Nat.succ_pos _), Nat.div_eq_of_lt (by omega),
            Nat.zero_add]
        refine .later (.later (.here ?_))
        exact {
          partings := by rw [hpartings, hquot]
          handled := by rw [hevents, hlen', hquot]
          failed := by rwa [hevents]
          copied := hcopied }

end Outage

/-- **Outages cost redeliveries**, and neither attempts nor copies. -/
theorem outlasts_run (h : Outage w b r stage attempts σ)
    (hacc : b.Accepts (stage.topicFor (w.mainTopic r)) (stage.preservedPartition r.partition)) :
    ∃ n, (Solo.run σ { worker := w, broker := b } n).Outlasts w b r stage attempts := by
  have hx : Solo.At w b r .idle false b.refusing [] [] { worker := w, broker := b } := {
    phase := h.idle
    stage := rfl
    configuration := rfl
    republishTries := rfl
    seenSignal := h.seenSignal
    paused := by rw [h.paused, h.idle]; rfl
    group := rfl
    consumed := rfl
    topics := rfl
    cursor := fun id => by
      split
      · rename_i hid
        rw [hid, h.cursor]
      · rfl
    refusing := rfl
    events := rfl
    copies := rfl
    partings := rfl }
  exact (h.rounds hacc (j := 0) (by simp) hx rfl (by simp) 0).exists_run rfl

end

/-! ### A record from the third partition -/

/-- A configuration whose topics are to be created with three partitions. -/
def Configuration.wide : Configuration := Configuration.once.withCreation { partitions := 3 }

/-- The stage for the retries of this configuration. -/
def Stage.wide : Stage := Configuration.wide.chain.stages[1]

/-- A worker for the main topic of this configuration, which tries to publish at most three
times. -/
def Worker.wide : Worker :=
  Container.worker { registry := {}, settings := { publishRetry := { tries := 2 } } }
    { id := "orders", group := "g", topics := ["orders"] } .wide ⟨0, by decide⟩
    { group := "g", topics := ["orders"] } 0

/-- A record in the third partition of the main topic, when the topic for retries has `n`. -/
def Broker.wide (n : Int) : Broker :=
  ((Broker.empty.createTopics [⟨"orders", 3, 1⟩, ⟨"orders-retry-0", n, 1⟩]).publish 0
    { topic := "orders", partition := some 2 }).2

/-- The record. -/
def Record.wide : Record :=
  Broker.recordOf "orders" 2 0 { key := none, payload := none, headers := .empty, timestamp := 0 }

/-- User code that always fails, a clock that goes on, and no shutdown. -/
def Surroundings.failing (n : Nat) : Surroundings where
  clock := { start := 0, elapsed := n }
  shutdown := {}
  handle _ := some (Failure.new "error" "it failed")
  bury _ _ := .ok ()

theorem outage_wide (n : Int) (k : Nat) :
    Outage .wide ((Broker.wide n).refuseNext k) .wide .wide 0 .failing where
  idle := rfl
  seenSignal := rfl
  paused := rfl
  regular := by
    have h : (Broker.wide n).Regular := (Broker.regular_empty.createTopics _).publish 0 _
    exact h.congr rfl
  keeps := ⟨2, 0, _, rfl, rfl⟩
  cursor := rfl
  topic := List.mem_singleton_self _
  alone i hi hav := by
    have hi : i ∈ [("orders", 0), ("orders", 1), ("orders", 2)] := hi
    simp only [List.mem_cons, List.not_mem_nil, or_false] at hi
    rcases hi with rfl | rfl | rfl
    · cases hav
    · cases hav
    · rfl
  state := ⟨_, Worker.stateOf_of_isMain rfl _ _, rfl⟩
  timeout := rfl
  fails _ := ⟨_, rfl, 0, 0, by decide +kernel⟩
  shutdown _ := rfl
  start _ := rfl
  goesOn t := ⟨t, fun _ h => h⟩

/-- The publications that are refused cost one more delivery, if the topic for retries has the
partition of the record. -/
theorem outlasts_wide :
    Outage .wide ((Broker.wide 3).refuseNext 4) .wide .wide 0 .failing ∧
    ((Broker.wide 3).refuseNext 4).Accepts (Stage.wide.topicFor (Worker.wide.mainTopic .wide))
      (Stage.wide.preservedPartition Record.wide.partition) ∧
    ∃ n, (Solo.run .failing { worker := .wide, broker := (Broker.wide 3).refuseNext 4 } n).Outlasts
      .wide ((Broker.wide 3).refuseNext 4) .wide .wide 0 := by
  have hacc : ((Broker.wide 3).refuseNext 4).Accepts
      (Stage.wide.topicFor (Worker.wide.mainTopic .wide))
      (Stage.wide.preservedPartition Record.wide.partition) := by
    intro p hp
    obtain rfl : 2 = p := Option.some.inj hp
    decide +kernel
  exact ⟨outage_wide 3 4, hacc, outlasts_run (outage_wide 3 4) hacc⟩

/-- **A copy that asks for a partition** that is not there.  No publication is refused, and the
first time that the record is handed over it is given back all the same. -/
theorem run_outOfRange :
    let b := (Broker.wide 1).refuseNext 0
    let x := Solo.run .failing { worker := .wide, broker := b }
    Outage .wide b .wide .wide 0 .failing ∧ b.refusing = 0 ∧
      (x 8).partings = [⟨.wide, some (.republish "orders-retry-0"
        (.publish (.outOfRange 2 "orders-retry-0" 1))), .after 0 false⟩] ∧
      (x 8).copies = [] ∧ ∀ n, ¬ (x n).Outlasts .wide b .wide .wide 0 := by
  intro b x
  have hparts : (x 8).partings = [⟨.wide, some (.republish "orders-retry-0"
      (.publish (.outOfRange 2 "orders-retry-0" 1))), .after 0 false⟩] := by
    decide +kernel
  refine ⟨outage_wide 1 0, rfl, hparts, by decide +kernel, fun n hout => ?_⟩
  -- without refusals the first parting would have to be the acknowledgement
  have hn : (x n).partings = [.acknowledged .wide] := by
    have hzero : b.refusing / (Worker.wide.republishTries + 1) = 0 := Nat.zero_div _
    have hpartings := hout.partings
    rwa [hzero, List.replicate_zero, List.nil_append] at hpartings
  rcases Nat.le_total n 8 with hle | hle
  · have hprefix : (x n).partings <+: (x 8).partings := Solo.partings_run .failing _ hle
    rw [hn, hparts] at hprefix
    exact absurd hprefix (by decide +kernel)
  · have hprefix : (x 8).partings <+: (x n).partings := Solo.partings_run .failing _ hle
    rw [hn, hparts] at hprefix
    exact absurd hprefix (by decide +kernel)

end Redelivery
