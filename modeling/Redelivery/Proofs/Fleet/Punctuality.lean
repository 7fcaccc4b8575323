import Redelivery.Proofs.Fleet.Carriage
import Redelivery.Proofs.Fleet.Conservation
import Redelivery.Proofs.Worker.Waits

/-!
# Fleet — punctuality

The due time of a copy is stamped by one worker (`Fleet.Stamped`), is carried in headers, and holds
up another worker, which waits for it with its consumer paused.  The steps of a worker that are
among the moves of a run are its `Fleet.Acted`.

**Punctuality** (`run_punctual`).  Whatever the clocks say and whenever a shutdown is requested, a
record that has a due time is handed to the user's code right after a reading of the clock at which
it was due.  A wait that is interrupted leaves no trace of a dispatch, and the record is the next
one that its group is handed.  However a wait ends, the consumer takes records again, and while it
was paused it took none.
-/

namespace Redelivery

/-- A worker that is started waits for nothing. -/
theorem Container.waits_start {c : Container} {b : Broker} {w : Worker}
    (h : w ∈ (c.start b).workers) : Desk.Waits ⟨w, {}⟩ := by
  refine Desk.waits_of_idle (mem_start h).2.1 ?_
  obtain ⟨ws, hws, hw⟩ := mem_collect h
  simp only [List.mem_flatMap, List.mem_map, Prod.exists] at hws
  obtain ⟨e, configuration, -, i, -, hws⟩ := hws
  obtain ⟨n, rfl⟩ := mem_stageWorkers hws hw
  rfl

namespace Fleet

/-- The worker's step from `d` in these surroundings is one of the moves. -/
def Acted (c : Container) (moves : List Move) (i : Nat) (s : Surroundings) (d : Desk) : Prop :=
  ∃ earlier later, moves = earlier ++ .work i s :: later ∧ (run c earlier).desks[i]? = some d

/-- The worker's last step among the moves is this one. -/
def LastActed (c : Container) (moves : List Move) (i : Nat) (s : Surroundings) (d : Desk) : Prop :=
  ∃ earlier later, moves = earlier ++ .work i s :: later ∧ (run c earlier).desks[i]? = some d ∧
    ∀ s', .work i s' ∉ later

/-- What the last steps of a worker say about what it does next. -/
structure Timely (c : Container) (moves : List Move) (i : Nat) (d : Desk) : Prop where
  waits : d.Waits
  /-- A record that is handed over next is due. -/
  due : ∀ r state due, d.worker.phase = .handling r state → state.dueAt = some due →
    ∃ s d', LastActed c moves i s d' ∧ d'.worker.phase.Early r ∧
      due.toInt ≤ s.clock.now.toInt
  /-- What is to be published was decided on. -/
  decided : ∀ r copy more, d.worker.phase = .publishing r copy more →
    ∃ s d', Acted c moves i s d' ∧ d'.worker.phase.Early r ∧ d'.worker.Prepares s r copy

/-- A worker decided on a copy that was published. -/
inductive Decided (c : Container) (moves : List Move) (a : Copy) : Prop where
  | intro {i : Nat} {s : Surroundings} {d : Desk} {r : Record} {copy : Outgoing} {now : Instant}
      (hacted : Acted c moves i s d) (hearly : d.worker.phase.Early r)
      (hprepares : d.worker.Prepares s r copy) (hs : r.place = a.source)
      (ht : a.target.topic = copy.topic)
      (hr : (run c moves).broker.recordAt? a.target = some (Broker.recordOf a.target.topic
        a.target.partition a.target.offset (Broker.entryOf now copy))) : Decided c moves a

/-- The copy is due when a delay has passed since the reading of the clock at which a worker of the
group looked up where its record goes, after the user's code had failed on it. -/
inductive Stamped (c : Container) (moves : List Move) (a : Copy) (delay : Millis) : Prop where
  | intro {i : Nat} {s : Surroundings} {d : Desk} {r r' : Record} {state next : RetryState}
      {failure : Failure} (hacted : Acted c moves i s d)
      (hp : d.worker.phase = .handling r state) (hg : d.worker.consumer.group = a.group)
      (hs : r.place = a.source) (hf : s.handle r = some failure)
      (hr : (run c moves).broker.recordAt? a.target = some r')
      (hread : RetryState.read r'.headers = .ok (some next))
      (hdue : next.dueAt = some (s.clock.now.after delay)) : Stamped c moves a delay

/-- What goes for a worker of a fleet around its waits. -/
structure Awaits (f : Fleet) (i : Nat) (d : Desk) : Prop where
  /-- Whoever waits has paused its consumer, and nobody else has. -/
  paused : d.worker.consumer.paused = d.worker.phase.isWaiting
  /-- A consumer that is paused takes nothing, and its worker does nothing but wait. -/
  still : d.worker.consumer.paused = true →
    (d.worker.membership f.broker).take = (none, d.worker.membership f.broker) ∧
    ∀ s, (d.worker.step s f.broker).events = [] ∧
      (d.worker.membership f.broker).Quiet
        ((d.worker.step s f.broker).worker.membership (d.worker.step s f.broker).broker)
  /-- However a wait ends, the consumer takes records again. -/
  ended : ∀ s r state result, d.worker.waitEnd? s f.broker = some (r, state, result) →
    (d.worker.step s f.broker).worker.phase = Worker.afterWait r state result ∧
      (d.worker.step s f.broker).worker.consumer.paused = false
  /-- A wait that is interrupted ends with nothing done to the record, which is to be given back. -/
  interrupted : ∀ s r state, d.worker.waitEnd? s f.broker = some (r, state, .ok .interrupted) →
    (d.worker.step s f.broker).worker.phase = .returning r .interrupted ∧
      (d.worker.step s f.broker).events = [] ∧
      (d.worker.membership f.broker).Quiet
        ((d.worker.step s f.broker).worker.membership (d.worker.step s f.broker).broker)
  /-- From then on its dispatch is over, of which there is nothing to be seen. -/
  untouched : ∀ r, d.worker.phase = .returning r .interrupted → d.dispatch = {}
  /-- The record is given back, so that its group is handed it next, and the worker stops. -/
  returned : ∀ s r, d.worker.phase = .returning r .interrupted →
    (d.worker.step s f.broker).worker.phase = .closing ∧
      (d.worker.step s f.broker).events = [] ∧
      f.broker.gained (f.work i s).broker = [] ∧
      (∀ id, ((f.work i s).broker.cursor id).committed = (f.broker.cursor id).committed) ∧
      ∀ consumer : Consumer, consumer.group = d.worker.consumer.group → ∃ e,
        (⟨consumer, (f.work i s).broker⟩ : Membership).available? r.topic r.partition.toNat =
          some (r.offset, e) ∧ r = Broker.recordOf r.topic r.partition.toNat r.offset.toNat e

/-- What goes for the due times of a container's records. -/
structure Punctual (c : Container) (moves : List Move) : Prop where
  /-- On a stage other than the main one, a record whose headers have a due time is handed to the
  user's code only when the worker's last step has read a clock that says it is due. -/
  handled : ∀ (i : Nat) (d : Desk) (s : Surroundings) (r : Record) (time : Instant)
    (failure : Option Failure) (state : RetryState) (due : Instant),
    (run c moves).desks[i]? = some d →
    .handled r time failure ∈ (d.worker.step s (run c moves).broker).events →
    d.worker.stage.isMain = false → RetryState.read r.headers = .ok (some state) →
    state.dueAt = some due →
    ∃ s' d', LastActed c moves i s' d' ∧ d'.worker.phase.Early r ∧
      due.toInt ≤ s'.clock.now.toInt
  /-- The copies on a stage from which records are taken have the due times of this stage. -/
  stamped : ∀ a ∈ (run c moves).copies, ∀ p ∈ c.posts, p.topic = a.target.topic →
    p.stage.role.isConsumed = true → Stamped c moves a p.stage.delay
  awaits : ∀ (i : Nat) (d : Desk), (run c moves).desks[i]? = some d → (run c moves).Awaits i d
  /-- Waits are the same with other consumers, which may fail to be paused, to be resumed or to show
  that they are alive. -/
  tidy : ∀ (σ : Type) [Pausable σ] (due now : Instant) (s : Shutdown) (x : σ)
    (wakings : List Waking), DueWait.Tidy due now s x wakings

variable {c : Container} {f : Fleet} {moves : List Move} {i : Nat} {s : Surroundings} {d : Desk}

/-! ### Steps of a worker -/

theorem LastActed.acted (h : LastActed c moves i s d) : Acted c moves i s d := by
  obtain ⟨earlier, later, he, hd, -⟩ := h
  exact ⟨earlier, later, he, hd⟩

theorem lastActed_work (hd : (run c moves).desks[i]? = some d) (s : Surroundings) :
    LastActed c (moves ++ [.work i s]) i s d :=
  ⟨moves, [], rfl, hd, by simp⟩

theorem Acted.concat (h : Acted c moves i s d) (m : Move) : Acted c (moves ++ [m]) i s d := by
  obtain ⟨earlier, later, rfl, hd⟩ := h
  exact ⟨earlier, later ++ [m], by simp, hd⟩

theorem LastActed.concat (h : LastActed c moves i s d) {m : Move} (hm : ∀ s, m ≠ .work i s) :
    LastActed c (moves ++ [m]) i s d := by
  obtain ⟨earlier, later, rfl, hd, hlast⟩ := h
  refine ⟨earlier, later ++ [m], by simp, hd, fun s' hs' => ?_⟩
  rcases List.mem_append.mp hs' with hs' | hs'
  · exact hlast s' hs'
  · exact hm s' (List.mem_singleton.mp hs').symm

/-- What holds of every worker that starts, and is kept by its steps and by all other moves. -/
theorem desks_induction {P : List Move → Nat → Desk → Prop}
    (start : ∀ moves i w, w ∈ (c.start (run c moves).broker).workers →
      P (moves ++ [.start]) i ⟨w, {}⟩)
    (work : ∀ moves i d s, (run c moves).desks[i]? = some d → P moves i d →
      P (moves ++ [.work i s]) i (d.step s (run c moves).broker))
    (other : ∀ moves i d m, (∀ s, m ≠ .work i s) → P moves i d → P (moves ++ [m]) i d)
    (moves : List Move) (i : Nat) (d : Desk) (hd : (run c moves).desks[i]? = some d) :
    P moves i d := by
  induction moves using List.reverseRecOn generalizing i d with
  | nil => cases hd
  | append_singleton moves m ih =>
      rw [run_concat] at hd
      cases m with
      | publish _ _ | create _ | refuse _ => exact other moves i d _ (by simp) (ih i d hd)
      | start =>
          simp only [move, List.getElem?_append] at hd
          split at hd
          · exact other moves i d _ (by simp) (ih i d hd)
          · obtain ⟨w, hw, rfl⟩ := List.mem_map.mp (List.mem_of_getElem? hd)
            exact start moves i w hw
      | work j s =>
          change ((run c moves).work j s).desks[i]? = some d at hd
          cases hj : (run c moves).desks[j]? with
          | none =>
              rw [work_of_none hj] at hd
              refine other moves i d _ (fun s' h => ?_) (ih i d hd)
              cases h
              rw [hj] at hd
              cases hd
          | some x =>
              rw [work_eq hj] at hd
              rcases (Session.member_set hj).mp hd with ⟨rfl, rfl⟩ | ⟨hne, hd⟩
              · exact work moves i x s hj (ih i x hj)
              · refine other moves i d _ (fun s' h => ?_) (ih i d hd)
                cases h
                exact hne rfl

/-! ### Due times -/

/-- **Every worker** of a run. -/
theorem timely_run (c : Container) (moves : List Move) (i : Nat) (d : Desk)
    (hd : (run c moves).desks[i]? = some d) : Timely c moves i d := by
  refine desks_induction (P := Timely c) ?start ?work ?other moves i d hd
  case start =>
    intro moves i w hw
    have hp := (Container.mem_start hw).2.1
    refine ⟨Container.waits_start hw, ?_, ?_⟩
    · intro r state due h
      rw [hp] at h
      cases h
    · intro r copy more h
      rw [hp] at h
      cases h
  case work =>
    intro moves i d s hd h
    refine ⟨h.waits.step ((sound_run c moves).orderly hd) s _, ?_, ?_⟩
    · intro r state due hp hdue
      obtain ⟨hearly, hle⟩ := Worker.due_of_handling h.waits.timed hp hdue
      exact ⟨s, d, lastActed_work hd s, hearly, hle⟩
    · intro r copy more hp
      rcases Worker.of_step_publishing hp with ⟨hearly, -⟩ | ⟨more, hp'⟩
      · exact ⟨s, d, (lastActed_work hd s).acted, hearly,
          (Worker.prepares_of_step hearly hp).2⟩
      · -- it was tried to publish before
        obtain ⟨s', d', hacted, h'⟩ := h.decided r copy more hp'
        exact ⟨s', d', hacted.concat _, h'⟩
  case other =>
    intro moves i d m hm h
    refine ⟨h.waits, ?_, ?_⟩
    · intro r state due hp hdue
      obtain ⟨s, d', hacted, h'⟩ := h.due r state due hp hdue
      exact ⟨s, d', hacted.concat hm, h'⟩
    · intro r copy more hp
      obtain ⟨s, d', hacted, h'⟩ := h.decided r copy more hp
      exact ⟨s, d', hacted.concat m, h'⟩

/-- Logs only grow. -/
theorem Sound.extends_move (hs : f.Sound c) (m : Move) :
    f.broker.Extends (f.move c m).broker := by
  obtain ⟨history, h⟩ := hs.session
  have hb : f.broker.Regular := h.regular
  cases m with
  | publish now r => exact Broker.extends_publish hb now r
  | create requests => exact .of_log_eq (Broker.log_createTopics f.broker requests)
  | refuse n => exact .refl _
  | start => exact .of_log_eq (Broker.log_createTopics f.broker c.topicsToCreate)
  | work i s =>
      change f.broker.Extends (f.work i s).broker
      cases hd : f.desks[i]? with
      | none =>
          rw [work_of_none hd]
          exact .refl _
      | some d =>
          rw [work_eq hd]
          exact extends_of_does hb (d.worker.does_step s f.broker)

theorem Decided.concat {a : Copy} (h : Decided c moves a) (m : Move) :
    Decided c (moves ++ [m]) a := by
  obtain ⟨hacted, hearly, hprepares, hs, ht, hr⟩ := h
  have hext := (sound_run c moves).extends_move m
  rw [← run_concat] at hext
  exact ⟨hacted.concat m, hearly, hprepares, hs, ht, hext.recordAt? hr⟩

/-- A copy that is published was decided on. -/
theorem decided_work {a : Copy} (hd : (run c moves).desks[i]? = some d)
    (ha : a ∈ d.copied ((run c moves).broker.gained
      (d.worker.step s (run c moves).broker).broker)) :
    Decided c (moves ++ [.work i s]) a := by
  have hs := sound_run c moves
  obtain ⟨history, hsession⟩ := hs.session
  have hb : (run c moves).broker.Regular := hsession.regular
  cases hs.effect hd s with
  | none hgain _ _ _ =>
      rw [hgain, copied_nil] at ha
      cases ha
  | acknowledge _ hgain _ _ =>
      rw [hgain, copied_nil] at ha
      cases ha
  | @copy r copy more y hp hgain _ _ _ =>
      have hr : d.worker.record? = some r := congrArg Phase.record? hp
      obtain ⟨s', d', hacted, hearly, hprepares⟩ :=
        (timely_run c moves i d hd).decided r copy more hp
      simp only [Desk.copied, hr, hgain, List.map_singleton, List.mem_singleton] at ha
      subst ha
      have hrun : (run c (moves ++ [.work i s])).broker =
          ((run c moves).broker.publish s.clock.now copy).2 := by
        rw [run_concat]
        exact (broker_work hd s).trans ((d.worker.does_step s _).of_publishing hp).1
      have htopic : y.topic = copy.topic := by
        rcases Desk.publishing_cases hb hp s with ⟨hnone, -⟩ | ⟨z, hz, ht, -⟩
        · rw [hgain] at hnone
          cases hnone
        · rw [hgain] at hz
          cases hz
          exact ht
      have hgained : y ∈ (run c moves).broker.gained
          ((run c moves).broker.publish s.clock.now copy).2 := by
        rw [← ((d.worker.does_step s _).of_publishing hp).1, hgain]
        exact List.mem_singleton_self y
      have hrecord := Broker.recordAt?_of_gained hb hgained
      rw [← hrun] at hrecord
      exact .intro (hacted.concat _) hearly hprepares rfl htopic hrecord

/-- **Every copy** was decided on. -/
theorem decided_run (c : Container) (moves : List Move) :
    ∀ a ∈ (run c moves).copies, Decided c moves a := by
  induction moves using List.reverseRecOn with
  | nil => simp [run]
  | append_singleton moves m ih =>
      intro a ha
      rw [run_concat] at ha
      cases m with
      | publish _ _ | create _ | refuse _ | start => exact (ih a ha).concat _
      | work i s =>
          change a ∈ ((run c moves).work i s).copies at ha
          cases hd : (run c moves).desks[i]? with
          | none =>
              rw [work_of_none hd] at ha
              exact (ih a ha).concat _
          | some d =>
              rw [work_eq hd] at ha
              rcases List.mem_append.mp ha with ha | ha
              · exact (ih a ha).concat _
              · exact decided_work hd ha

/-- **A copy** on a stage from which records are taken has the due time of this stage. -/
theorem stamped_run (hc : c.Built) (moves : List Move) {a : Copy} (ha : a ∈ (run c moves).copies)
    {q : Post} (hq : q ∈ c.posts) (ht : q.topic = a.target.topic)
    (hcons : q.stage.role.isConsumed = true) : Stamped c moves a q.stage.delay := by
  obtain ⟨hacted, hearly, hprepares, hs, htopic, hr⟩ := decided_run c moves a ha
  obtain ⟨earlier, later, -, hd⟩ := id hacted
  obtain ⟨p, hat⟩ := (sound_run c earlier).at hd hearly.record?
  obtain ⟨he, hm, hmem⟩ := Container.mem_posts.mp hat.mem
  -- the stage that was decided on is the one on which the copy is
  have hpost : ∀ stage ∈ p.configuration.chain.stages,
      a.target.topic = stage.topicFor p.main → q = { p with stage } := fun stage hstage h =>
    hc.eq_of_topic hq (Container.mem_posts.mpr ⟨he, hm, hstage⟩) (ht.trans h)
  cases hprepares with
  | @deadLetter stage hstage hdead htarget =>
      rw [← hat.configuration] at hstage
      rw [← hat.main] at htarget
      rw [hpost stage hstage (htopic.trans htarget), Role.isConsumed, hdead] at hcons
      cases hcons
  | @retry state failure stage hp hf hnext hcopy =>
      have hstage := Resolver.mem_of_retryAfter? (Resolver.retryAfter?_of_next hnext)
      change stage ∈ _ at hstage
      rw [hcopy] at htopic hr
      rw [hpost stage (hat.configuration ▸ hstage) (htopic.trans (by rw [hat.main]; rfl))]
      obtain ⟨p', route, stage', hlead⟩ := (ledger_run hc moves).leads a ha
      refine .intro hacted hp ?_ hs hf hr (RetryState.read_nextHop ..) rfl
      rw [← hat.group, ← hlead.group, hc.eq_of_topic hat.mem hlead.mem]
      rw [hat.topic, hlead.source, ← hs]
      rfl

/-! ### Waits -/

/-- **Every worker** around its waits. -/
theorem awaits_run (c : Container) (moves : List Move) {i : Nat} {d : Desk}
    (hd : (run c moves).desks[i]? = some d) : (run c moves).Awaits i d := by
  have hs := sound_run c moves
  have hwaits := (timely_run c moves i d hd).waits
  constructor
  case paused => exact hwaits.paused
  case still =>
    intro hpaused
    have hwaiting : d.worker.phase.isWaiting = true := hwaits.paused ▸ hpaused
    refine ⟨?_, fun s => (Worker.quiet_of_isWaiting hwaiting).symm⟩
    rw [Membership.take, if_pos]
    simp [Worker.membership, hpaused]
  case ended => exact fun s r state result h => Worker.of_waitEnd? hwaits.paused h
  case interrupted =>
    intro s r state h
    have hp := (Worker.of_waitEnd? hwaits.paused h).1
    obtain ⟨-, -, he, hq⟩ := Worker.interrupt_of_step hp
    exact ⟨hp, he, hq⟩
  case untouched => exact hwaits.untouched
  case returned =>
    intro s r hp
    obtain ⟨-, hgain, hcur, hk⟩ := hs.returns hd hp s
    refine ⟨?_, ?_, hgain, fun id => ?_, fun consumer hg => available?_eq hk (hg ▸ hcur)⟩
    · rw [Worker.step_returning hp]
      rfl
    · rw [Worker.step_returning hp]
      rfl
    · rw [broker_work hd]
      refine committed_of_does (d.worker.does_step s _) (fun r' h => ?_) id
      rw [hp] at h
      cases h

/-- **Punctuality**, whatever the workers of a container do and in whatever order. -/
theorem run_punctual (hc : c.Built) (moves : List Move) : Punctual c moves where
  handled i d s r time failure state due hd hevent hstage hread hdue := by
    obtain ⟨state', hp⟩ := Worker.handling_of_handled hevent
    have hnoted := (Journal.faithful_run c moves).noted ((Journal.fleet_run c moves).symm ▸ hd)
    have hstate : d.worker.phase.state? = some state' := congrArg Phase.state? hp
    obtain ⟨t, ht⟩ := Journal.exists_stateOf hnoted (congrArg Phase.record? hp) hstate
    -- the state that the worker goes on with is the one in the headers
    rw [Worker.stateOf_of_not_isMain hstage, hread] at ht
    cases ht
    exact (timely_run c moves i d hd).due r state due hp hdue
  stamped _ ha _ hp ht hcons := stamped_run hc moves ha hp ht hcons
  awaits _ _ hd := awaits_run c moves hd
  tidy _ _ due now s x wakings := DueWait.tidy_course due now s x wakings

/-- A record fails once, and another worker takes it and waits until it is due. -/
def delivery : List Move :=
  failures 1 ++ List.replicate 3 (.work 1 failing) ++
    [.work 1 { failing with clock := { start := 0, elapsed := 1000 } }]

/-- A record that is handed over a second after it failed. -/
theorem run_punctual_once :
    Container.once.Built ∧ Punctual .once delivery ∧
    ∃ d r state, (run .once delivery).desks[1]? = some d ∧
      d.worker.phase = .handling r state ∧ state.dueAt = some 1000 ∧
      ∃ s d', LastActed .once delivery 1 s d' ∧ d'.worker.phase.Early r ∧
        (1000 : Instant).toInt ≤ s.clock.now.toInt := by
  have hpunctual := run_punctual Container.built_once delivery
  have hrun : ((run .once delivery).desks[1]?.any fun d =>
      match d.worker.phase with
      | .handling r state => !d.worker.stage.isMain && decide (state.dueAt = some 1000 ∧
          RetryState.read r.headers = .ok (some state))
      | _ => false) = true := by
    decide +kernel
  obtain ⟨d, hd, hphase⟩ := (Option.any_eq_true _ _).mp hrun
  split at hphase
  · rename_i r state hp
    simp only [Bool.and_eq_true, Bool.not_eq_true', decide_eq_true_eq] at hphase
    obtain ⟨hstage, hdue, hread⟩ := hphase
    refine ⟨Container.built_once, hpunctual, d, r, state, hd, hp, hdue, ?_⟩
    refine hpunctual.handled 1 d failing r failing.clock.now (failing.handle r) state 1000 hd ?_
      hstage hread hdue
    rw [Worker.events_handling hp]
    exact List.mem_cons_self ..
  · cases hphase

end Fleet

end Redelivery
