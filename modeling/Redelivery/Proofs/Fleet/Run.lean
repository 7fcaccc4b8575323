import Redelivery.Proofs.Container.Posts
import Redelivery.Proofs.Worker.Dispatch

/-!
# Fleet — the workers of a container

A fleet is a broker with the workers of a container, which was started any number of times.  Its
moves may follow each other in any order (`Fleet.run`): records are published and topics created
from outside, publications are refused, and any worker makes its next step, whatever surrounds it
then.

A fleet also notes what can be seen of its moves: the places of the records that were published
from outside, the copies that workers published, and the records that were acknowledged without
one.

**The members of a fleet.**  Each worker serves a stage of an endpoint (`Worker.Serves`), its
dispatch is in order, and the workers with the records that they deal with make a sound session
of the broker (`Fleet.Sound`, `sound_run`).
-/

namespace Redelivery

/-- A copy that a worker of a group published of the record at a place. -/
structure Copy where
  group : String
  source : Place
  target : Place
  deriving Repr, DecidableEq

/-- A record that a worker acknowledged without having published a copy. -/
structure Settlement where
  worker : Worker
  record : Record
  dispatch : Dispatch

/-- Where the record of a settlement is kept. -/
def Settlement.place (k : Settlement) : Place := k.record.place

namespace Desk

/-- The copies of the worker's record, if logs gained these places by its step. -/
def copied (d : Desk) (gained : List Place) : List Copy :=
  match d.worker.record? with
  | some r => gained.map fun y => ⟨d.worker.consumer.group, r.place, y⟩
  | none => []

/-- What the worker's step settles: the record that it acknowledges, unless there is a copy. -/
def settled (d : Desk) : List Settlement :=
  match d.worker.phase with
  | .committing r => if d.dispatch.copies = [] then [⟨d.worker, r, d.dispatch⟩] else []
  | _ => []

end Desk

/-- A broker and the workers of a container. -/
structure Fleet where
  broker : Broker := .empty
  desks : List Desk := []
  /-- Where the records are that were published from outside. -/
  published : List Place := []
  /-- The copies that workers published, in order. -/
  copies : List Copy := []
  /-- What was acknowledged without a copy, in order. -/
  settled : List Settlement := []

/-- What can happen in a fleet.  Workers are named by their position. -/
inductive Move where
  | publish (now : Instant) (r : Outgoing)
  | create (requests : List TopicRequest)
  | refuse (n : Nat)
  /-- The container is started, so that its topics exist and its workers join. -/
  | start
  | work (i : Nat) (s : Surroundings)

namespace Fleet

/-- The fleet after a step of a worker, if there is that worker. -/
def work (f : Fleet) (i : Nat) (s : Surroundings) : Fleet :=
  match f.desks[i]? with
  | none => f
  | some d =>
      let b := (d.worker.step s f.broker).broker
      { f with
        broker := b
        desks := f.desks.set i (d.step s f.broker)
        copies := f.copies ++ d.copied (f.broker.gained b)
        settled := f.settled ++ d.settled }

/-- The fleet of a container after a move. -/
def move (c : Container) (f : Fleet) : Move → Fleet
  | .publish now r =>
      let b := (f.broker.publish now r).2
      { f with broker := b, published := f.published ++ f.broker.gained b }
  | .create requests => { f with broker := f.broker.createTopics requests }
  | .refuse n => { f with broker := f.broker.refuseNext n }
  | .start =>
      let startup := c.start f.broker
      { f with
        broker := startup.broker
        desks := f.desks ++ startup.workers.map fun w => { worker := w } }
  | .work i s => f.work i s

/-- The fleet of a container after moves that follow each other, on a new broker. -/
def run (c : Container) (moves : List Move) : Fleet := moves.foldl (move c) {}

theorem run_concat (c : Container) (moves : List Move) (m : Move) :
    run c (moves ++ [m]) = (run c moves).move c m := by
  simp [run]

/-- The workers as members of their groups, with what happened to records. -/
def session (f : Fleet) (history : List Handling) : Session :=
  ⟨f.broker, f.desks.map (·.worker.member), history⟩

end Fleet

/-- The worker takes records of a stage of one of the endpoints. -/
def Worker.Serves (c : Container) (w : Worker) : Prop :=
  ∃ e : Endpoint, (e, w.configuration) ∈ c.endpoints ∧ w.stage.role.isConsumed = true ∧
    w.consumer.group = e.group ++ w.stage.suffix ∧
    w.consumer.topics = e.topics.map w.stage.topicFor

/-- The post at which a worker deals with a record. -/
structure Worker.At (c : Container) (w : Worker) (r : Record) (p : Post) : Prop where
  mem : p ∈ c.posts
  topic : p.topic = r.topic
  group : p.group = w.consumer.group
  stage : p.stage = w.stage
  configuration : p.configuration = w.configuration
  main : p.main = w.mainTopic r
  isConsumed : p.stage.role.isConsumed = true

theorem Worker.Serves.at {c : Container} {w : Worker} (h : w.Serves c) {r : Record}
    (hr : r.topic ∈ w.consumer.topics) : ∃ p, w.At c r p := by
  obtain ⟨e, he, hcons, hg, ht⟩ := h
  rw [ht] at hr
  obtain ⟨m, hm, hr⟩ := List.mem_map.mp hr
  have hmain : m = w.mainTopic r := by
    rw [Worker.mainTopic, ← hr, Stage.topicFor, Text.withoutSuffix_append]
  exact ⟨⟨e, w.configuration, m, w.stage⟩, Container.mem_posts.mpr ⟨he, hm, List.get_mem ..⟩, hr,
    hg.symm, rfl, rfl, hmain, hcons⟩

namespace Fleet

/-- Workers, dispatches and the broker agree. -/
structure Sound (c : Container) (f : Fleet) : Prop where
  session : ∃ history, (f.session history).Sound
  orderly : ∀ {i : Nat} {d : Desk}, f.desks[i]? = some d → d.Orderly
  serves : ∀ {i : Nat} {d : Desk}, f.desks[i]? = some d → d.worker.Serves c

theorem sound_empty (c : Container) : Sound c {} where
  session := ⟨[], Session.sound_empty⟩
  orderly := by simp
  serves := by simp

end Fleet

/-! ### Steps of workers in a session -/

namespace Session

/-- A change that takes nothing and moves no cursor, of a member that goes on holding what it
holds. -/
theorem Sound.quiet {s : Session} (hs : s.Sound) {i : Nat} {w w' : Worker} {b : Broker}
    (hm : s.members[i]? = some w.member) (hr : w'.record? = w.record?)
    (hq : (w.membership s.broker).Quiet (w'.membership b)) :
    Sound ⟨b, s.members.set i w'.member, s.history⟩ := by
  have hrep := replaces_same (x := w'.membership b) hs hm hq.topics hq.cursors hq.alike.group
    hq.alike.held
  have := hs.replace hm hrep
  rw [List.append_nil] at this
  rw [Worker.member, hr]
  exact this

/-- An operation of a member that is a worker's step. -/
theorem Sound.replace_worker {s : Session} (hs : s.Sound) {i : Nat} {m : Member} {w : Worker}
    {b : Broker} {x : Turn} (hm : s.members[i]? = some m)
    (hrep : Replaces s.broker x.broker m x.member x.handled) (hb : b = x.broker)
    (hw : w.member = x.member) :
    ∃ history, Sound ⟨b, s.members.set i w.member, history⟩ := by
  rw [hb, hw]
  exact ⟨_, hs.replace hm hrep⟩

/-- **A worker's step** keeps a session sound. -/
theorem Sound.work {s : Session} (hs : s.Sound) {i : Nat} {w : Worker} {x : Surroundings}
    {t : WorkerStep} (hm : s.members[i]? = some w.member) (hd : w.Does x s.broker t) :
    ∃ history, Sound ⟨t.broker, s.members.set i t.worker.member, history⟩ := by
  cases hd with
  | rest h hp hq _ => exact ⟨_, hs.quiet hm (hp.trans h.symm) hq⟩
  | prepare h hp hq _ _ => exact ⟨_, hs.quiet hm (hp.record?.trans h.record?.symm) hq⟩
  | interrupt h hp hq _ _ =>
      exact ⟨_, hs.quiet hm ((congrArg Phase.record? hp).trans h.record?.symm) hq⟩
  | decide h hd hq => exact ⟨_, hs.quiet hm (hd.record?.trans h.record?.symm) hq⟩
  | @take r h ht hp _ =>
      have hrec : t.worker.record? = some r := congrArg Phase.record? hp
      refine hs.replace_worker (x := ⟨⟨_, w.member.records ++ [r]⟩, _, _⟩) hm
        (replaces_take hs hm ht) rfl ?_
      simp [Worker.member, hrec, h, Worker.membership]
  | @publish r copy more h hb hc _ hp =>
      have hrec : t.worker.record? = w.record? := by
        rw [Worker.record?, Worker.record?, h]
        rcases hp with ⟨-, hp⟩ | ⟨_, -, ⟨_, hp⟩ | ⟨_, hp⟩⟩ <;> rw [hp] <;> rfl
      have hmem : t.worker.member = w.member := by rw [Worker.member, hc, hrec, Worker.member]
      -- the member is the same as before
      have hset : s.members.set i t.worker.member = s.members := by
        obtain ⟨hi, hget⟩ := List.getElem?_eq_some_iff.mp hm
        rw [hmem, ← hget, List.set_getElem_self]
      rw [hset, hb]
      exact ⟨s.history, hs.grow (hs.regular.publish x.clock.now copy)
        (Broker.cursors_publish ..) (Broker.extends_publish hs.regular x.clock.now copy)⟩
  | @commit r h hp ht _ =>
      have hrec : w.member.records = [r] := by
        simp [Worker.member, Worker.record?, h, Phase.record?]
      refine hs.replace_worker hm (replaces_commit hs hm r) ?_ ?_
      · rw [Member.commit, if_pos (by simp [hrec])]
        exact congrArg Membership.broker ht
      · rw [Member.commit, if_pos (by simp [hrec]), hrec, Worker.member, hp]
        exact congrArg₂ Member.mk (congrArg Membership.consumer ht) (by simp)
  | @giveBack r why h hp ht _ =>
      have hrec : w.member.records = [r] := by
        simp [Worker.member, Worker.record?, h, Phase.record?]
      refine hs.replace_worker hm (replaces_rewind hs hm r) ?_ ?_
      · rw [Member.rewind, if_pos (by simp [hrec])]
        exact congrArg Membership.broker ht
      · rw [Member.rewind, if_pos (by simp [hrec]), hrec, Worker.member, hp]
        exact congrArg₂ Member.mk (congrArg Membership.consumer ht) (by simp)
  | leave h hp ht _ =>
      refine hs.replace_worker hm (replaces_close hs hm) (congrArg Membership.broker ht) ?_
      rw [Worker.member, hp]
      exact congrArg (Member.mk · []) (congrArg Membership.consumer ht)

/-- Members that join hold nothing. -/
theorem Sound.joinAll {s : Session} (hs : s.Sound) {l : List Member}
    (hl : ∀ n ∈ l, n.records = [] ∧ n.consumer.held = []) :
    Sound { s with members := s.members ++ l } := by
  induction l generalizing s with
  | nil => simpa using hs
  | cons n l ih =>
      have hn := hl n (List.mem_cons_self ..)
      have := ih (hs.join hn.1 hn.2) fun x hx => hl x (List.mem_cons_of_mem _ hx)
      simpa using this

end Session

/-! ### Workers that start -/

namespace Container

theorem mem_collect {l : List (Except ContainerError (List Worker))} {w : Worker}
    (h : w ∈ (collect l).1) : ∃ ws, .ok ws ∈ l ∧ w ∈ ws := by
  induction l with
  | nil => simp [collect] at h
  | cons r l ih =>
      cases r with
      | error e => simp [collect] at h
      | ok ws =>
          simp only [collect, List.mem_append] at h
          rcases h with h | h
          · exact ⟨ws, List.mem_cons_self .., h⟩
          · obtain ⟨ws', hws', h⟩ := ih h
            exact ⟨ws', List.mem_cons_of_mem _ hws', h⟩

theorem mem_stageWorkers {c : Container} {e : Endpoint} {configuration : Configuration}
    {i : Fin configuration.chain.stages.length} {ws : List Worker} {w : Worker}
    (h : c.stageWorkers e configuration i = .ok ws) (hw : w ∈ ws) :
    ∃ n, w = c.worker e configuration i
      { group := e.group ++ (configuration.chain.stages.get i).suffix
        topics := e.topics.map (configuration.chain.stages.get i).topicFor } n := by
  simp only [stageWorkers, bind, Except.bind, pure, Except.pure] at h
  split at h
  · cases h
  · split at h
    · cases h
    · rename_i consumer hc
      cases h
      obtain ⟨n, -, rfl⟩ := List.mem_map.mp hw
      refine ⟨n, ?_⟩
      simp only [Consumer.join] at hc
      split at hc
      · cases hc
      · cases hc
        rfl

/-- A worker that is started serves its stage and deals with no record. -/
theorem mem_start {c : Container} {b : Broker} {w : Worker} (h : w ∈ (c.start b).workers) :
    w.Serves c ∧ w.phase = .idle ∧ w.consumer.held = [] := by
  obtain ⟨ws, hws, hw⟩ := mem_collect h
  simp only [List.mem_flatMap, List.mem_map, Prod.exists] at hws
  obtain ⟨e, configuration, he, i, hi, hws⟩ := hws
  obtain ⟨n, rfl⟩ := mem_stageWorkers hws hw
  exact ⟨⟨e, he, (List.mem_filter.mp hi).2, rfl, rfl⟩, rfl, rfl⟩

end Container

/-! ### Moves -/

namespace Fleet

variable {c : Container} {f : Fleet}

theorem work_eq {i : Nat} {d : Desk} (hd : f.desks[i]? = some d) (s : Surroundings) :
    f.work i s =
      { f with
        broker := (d.worker.step s f.broker).broker
        desks := f.desks.set i (d.step s f.broker)
        copies := f.copies ++ d.copied (f.broker.gained (d.worker.step s f.broker).broker)
        settled := f.settled ++ d.settled } := by
  simp only [work, hd]

theorem work_of_none {i : Nat} (hd : f.desks[i]? = none) (s : Surroundings) : f.work i s = f := by
  simp only [work, hd]

/-- A step of a worker. -/
theorem Sound.work (hs : f.Sound c) (i : Nat) (s : Surroundings) : (f.work i s).Sound c := by
  cases hd : f.desks[i]? with
  | none => rwa [work_of_none hd]
  | some d =>
      rw [work_eq hd]
      obtain ⟨history, hsession⟩ := hs.session
      have hm : (f.session history).members[i]? = some d.worker.member := by
        simp [Fleet.session, hd]
      have hdoes := d.worker.does_step s f.broker
      constructor
      · obtain ⟨history', h⟩ := hsession.work hm hdoes
        refine ⟨history', ?_⟩
        rw [Fleet.session, List.map_set]
        exact h
      · intro j x hx
        rcases (Session.member_set hd).mp hx with ⟨-, rfl⟩ | ⟨-, hx⟩
        · exact (hs.orderly hd).step hsession.regular s
        · exact hs.orderly hx
      · intro j x hx
        rcases (Session.member_set hd).mp hx with ⟨-, rfl⟩ | ⟨-, hx⟩
        · obtain ⟨e, he, hcons, hg, ht⟩ := hs.serves hd
          obtain ⟨consumer, phase, seenSignal, redelivery, hw⟩ := d.worker.step_worker s f.broker
          obtain ⟨hg', ht'⟩ := Desk.group_of_does hdoes
          change ((d.worker.step s f.broker).worker).Serves c
          rw [← hg'] at hg
          rw [← ht'] at ht
          rw [hw] at hg ht ⊢
          exact ⟨e, he, hcons, hg, ht⟩
        · exact hs.serves hx

/-- A change of the broker from outside, which moves no cursor. -/
theorem Sound.grow (hs : f.Sound c) {b : Broker} {published : List Place} (hb : b.Regular)
    (hc : b.cursors = f.broker.cursors) (hl : f.broker.Extends b) :
    Sound c { f with broker := b, published } where
  session := by
    obtain ⟨history, h⟩ := hs.session
    exact ⟨history, h.grow hb hc hl⟩
  orderly := hs.orderly
  serves := hs.serves

theorem Sound.start (hs : f.Sound c) : (f.move c .start).Sound c := by
  obtain ⟨history, h⟩ := hs.session
  have hnew : ∀ {i : Nat} {d : Desk}, (f.move c .start).desks[i]? = some d →
      f.desks[i]? = some d ∨ d.worker ∈ (c.start f.broker).workers ∧ d = ⟨d.worker, {}⟩ := by
    intro i d hd
    simp only [move, List.getElem?_append] at hd
    split at hd
    · exact .inl hd
    · obtain ⟨w, hw, rfl⟩ := List.mem_map.mp (List.mem_of_getElem? hd)
      exact .inr ⟨hw, rfl⟩
  constructor
  · refine ⟨history, ?_⟩
    have hgrow := h.grow (h.regular.createTopics c.topicsToCreate)
      (Broker.cursors_createTopics ..) (.of_log_eq (Broker.log_createTopics _ _))
    have := hgrow.joinAll (l := (c.start f.broker).workers.map Worker.member) fun n hn => by
      obtain ⟨w, hw, rfl⟩ := List.mem_map.mp hn
      obtain ⟨-, hp, hheld⟩ := Container.mem_start hw
      exact ⟨by simp [Worker.member, Worker.record?, hp, Phase.record?], hheld⟩
    simpa [move, Fleet.session, Container.start, List.map_map, Function.comp_def] using this
  · intro i d hd
    rcases hnew hd with hd | ⟨hw, hd⟩
    · exact hs.orderly hd
    · obtain ⟨-, hp, -⟩ := Container.mem_start hw
      rw [hd]
      have hrec : d.worker.record? = none := by rw [Worker.record?, hp]; rfl
      exact ⟨.free hrec, by simp, by simp [hrec]⟩
  · intro i d hd
    rcases hnew hd with hd | ⟨hw, -⟩
    · exact hs.serves hd
    · exact (Container.mem_start hw).1

/-- **Every move** keeps a fleet sound. -/
theorem Sound.move (hs : f.Sound c) (m : Move) : (f.move c m).Sound c := by
  obtain ⟨history, h⟩ := hs.session
  have hb : f.broker.Regular := h.regular
  cases m with
  | publish now r =>
      exact hs.grow (hb.publish now r) (Broker.cursors_publish ..) (Broker.extends_publish hb now r)
  | create requests =>
      exact hs.grow (hb.createTopics requests) (Broker.cursors_createTopics ..)
        (.of_log_eq (Broker.log_createTopics f.broker requests))
  | refuse n => exact hs.grow ⟨hb.1, hb.2⟩ rfl (Broker.Extends.refl _)
  | start => exact hs.start
  | work i s => exact hs.work i s

theorem sound_run (c : Container) (moves : List Move) : (run c moves).Sound c := by
  induction moves using List.reverseRecOn with
  | nil => exact sound_empty c
  | append_singleton moves m ih =>
      rw [run_concat]
      exact ih.move m

/-! ### A short run -/

/-- Nothing is shut down, and the user's code fails on every record. -/
def failing : Surroundings where
  clock := { start := 0 }
  shutdown := {}
  handle := fun _ => some (Failure.new "error" "it failed")
  bury := fun _ _ => .ok ()

/-- Some records are published, and the first worker fails on each of them and passes it on. -/
def failures (n : Nat) : List Move :=
  .start :: List.replicate n (.publish 0 { topic := "orders" }) ++
    List.replicate (6 * n) (.work 0 failing)

end Fleet

end Redelivery
