import Redelivery.Proofs.Fleet.Staff
import Redelivery.Proofs.Route.Walk

/-!
# Fleet — where routes lead

The topics of the chains are created, bound, served and published to in four places, each of which
goes through the chain on its own.  That they agree means that a copy always comes to a post
(`Fleet.Lands`): its topic exists, it is bound to the same main topic and configuration, it has the
partition that was asked for, and a broker that is not made to refuse it accepts it.

**Connections** (`run_connects`).  After a start that found no topic of a post with fewer partitions
than it is to have, this holds whatever happens: every copy that a worker publishes, or would
publish of any record of its topics, comes to a post of its main topic, and what is retried is
taken there by workers of the group of the next stage.
-/

namespace Redelivery

/-- The copy comes to the post. -/
structure Fleet.Lands (c : Container) (b : Broker) (p : Post) (copy : Outgoing) : Prop where
  mem : p ∈ c.posts
  topic : copy.topic = p.topic
  mem_topicNames : copy.topic ∈ b.topicNames
  /-- The topic is bound to what the post stands for. -/
  locate : ∃ x, c.registry.locate copy.topic = .ok x ∧ x.configuration = p.configuration ∧
    x.mainTopic = p.main ∧ x.stage = p.stage
  /-- The partition is one of the topic, if one is asked for. -/
  partition : ∀ q, copy.partition = some q → 0 ≤ q ∧ q.toNat < b.partitionCount copy.topic
  /-- To publish it fails only if this is refused on purpose. -/
  publish : ∀ now, (b.publish now copy).1 =
    if b.refusing = 0 then .ok () else .error (.publish (.injected copy.topic))

/-- The worker at a post passes the copy of its record on to a stage that the chain offers there. -/
def Worker.PassesOn (c : Container) (w : Worker) (b : Broker) (r : Record) (copy : Outgoing) :
    Prop :=
  ∃ p route stage, w.At c r p ∧ p.configuration.resolver.Offers p.stage route ∧
    route.stage? = some stage ∧ Fleet.Lands c b { p with stage } copy

namespace Fleet

/-- Some worker attends to the post. -/
def Attended (f : Fleet) (p : Post) : Prop :=
  ∃ (i : Nat) (d : Desk), f.desks[i]? = some d ∧ d.worker.Attends p

/-- Every route leads to a post, and those of retries to one that is attended to. -/
structure Connects (c : Container) (f : Fleet) : Prop where
  /-- The topics of all posts exist, with as many partitions as they are to have. -/
  hosts : ∀ p ∈ c.posts, f.broker.Hosts p.request
  /-- Whatever a worker on a stage decides to publish, of any record of its topics. -/
  decides : ∀ (w : Worker) (r : Record) (s : Surroundings) (copy : Outgoing) (more : Nat),
    w.Serves c → r.topic ∈ w.consumer.topics → w.phase.Early r →
    (w.step s f.broker).worker.phase = .publishing r copy more → w.PassesOn c f.broker r copy
  /-- What a worker is about to publish, however often it has tried. -/
  publishes : ∀ (i : Nat) (d : Desk) (r : Record) (copy : Outgoing) (more : Nat),
    f.desks[i]? = some d → d.worker.phase = .publishing r copy more →
    d.worker.PassesOn c f.broker r copy
  /-- What is retried is taken by workers of the group of its next stage. -/
  retries : ∀ p ∈ c.posts, f.Attended p → ∀ attempts firstAttempt failure now stage,
    p.configuration.resolver.next p.stage attempts firstAttempt failure now = .retry stage →
    ∃ (i : Nat) (d : Desk), f.desks[i]? = some d ∧
      d.worker.consumer.group = p.endpoint.group ++ stage.suffix ∧
      stage.topicFor p.main ∈ d.worker.consumer.topics ∧ d.worker.stage = stage ∧
      d.worker.configuration = p.configuration
  /-- All posts are attended to whose records are taken, if the start succeeded. -/
  attended : ∀ b, (c.start b).outcome = .ok () → ∀ p ∈ c.posts, p.stage.role.isConsumed = true →
    f.Attended p
  /-- A start succeeds if every endpoint has a topic. -/
  outcome_iff : ∀ b, (c.start b).outcome = .ok () ↔ ∀ x ∈ c.endpoints, x.1.topics ≠ []

variable {c : Container} {f : Fleet} {b : Broker}

/-! ### Copies -/

/-- **A copy for a stage** of a post's chain comes to the post of this stage. -/
theorem lands (hc : c.Built) (hosts : ∀ p ∈ c.posts, b.Hosts p.request) {p : Post}
    (hp : p ∈ c.posts) {stage : Stage} (hs : stage ∈ p.configuration.chain.stages)
    {copy : Outgoing} (ht : copy.topic = stage.topicFor p.main) {k : Int}
    (hk : copy.partition = stage.preservedPartition k) : Lands c b { p with stage } copy := by
  obtain ⟨he, hm, -⟩ := Container.mem_posts.mp hp
  have hmem : { p with stage } ∈ c.posts := Container.mem_posts.mpr ⟨he, hm, hs⟩
  have hhost := hosts _ hmem
  have hexists : copy.topic ∈ b.topicNames := ht ▸ hhost.mem
  have hpartition : ∀ q, copy.partition = some q →
      0 ≤ q ∧ q.toNat < b.partitionCount copy.topic := by
    intro q hq
    have hle : stage.creation.partitions ≤ b.partitionCount copy.topic :=
      ht ▸ hhost.partitions_le
    rw [hk, Stage.preservedPartition] at hq
    split at hq
    · cases hq
      omega
    · cases hq
  refine ⟨hmem, ht, hexists, ?_, hpartition, Broker.fst_publish hexists hpartition⟩
  obtain ⟨i, rfl⟩ := List.get_of_mem hs
  exact ⟨_, ht ▸ Registry.locate_eq_ok_iff.mpr (hc.located _ he _ hm i), rfl, rfl, rfl⟩

/-- A retry stage is taken records from. -/
theorem isConsumed_of_next (hc : c.Built) {p : Post} (hp : p ∈ c.posts) {attempts : UInt32}
    {firstAttempt now : Instant} {failure : Failure} {stage : Stage}
    (h : p.configuration.resolver.next p.stage attempts firstAttempt failure now = .retry stage) :
    stage ∈ p.configuration.chain.stages ∧ stage.role.isConsumed = true := by
  obtain ⟨he, -, hmem⟩ := Container.mem_posts.mp hp
  obtain ⟨spec, draw, hbuild⟩ := hc.planned he
  have hnext := Resolver.retryAfter?_of_next h
  have hretry := (List.mem_filter.mp
    (ChainSpec.mem_retries_of_retryAfter? hbuild rfl hmem hnext)).2
  exact ⟨Resolver.mem_of_retryAfter? hnext,
    by rw [Role.isConsumed, Role.isDeadLetter_of_isRetry hretry]; rfl⟩

/-! ### Moves -/

theorem keepsTopics_of_does {w : Worker} {s : Surroundings} {t : WorkerStep}
    (h : w.Does s b t) : b.KeepsTopics t.broker := by
  by_cases hpub : ∃ r copy more, w.phase = .publishing r copy more
  · obtain ⟨r, copy, more, hp⟩ := hpub
    rw [(h.of_publishing hp).1]
    exact b.keepsTopics_publish s.clock.now copy
  · exact .of_topics_eq (Desk.topics_of_does h fun r copy more hp => hpub ⟨r, copy, more, hp⟩)

/-- Topics outlast every move. -/
theorem keepsTopics_move (c : Container) (f : Fleet) (m : Move) :
    f.broker.KeepsTopics (f.move c m).broker := by
  cases m with
  | publish now r => exact f.broker.keepsTopics_publish now r
  | create requests => exact f.broker.keepsTopics_createTopics requests
  | refuse n => exact .of_topics_eq rfl
  | start => exact f.broker.keepsTopics_createTopics c.topicsToCreate
  | work i s =>
      change f.broker.KeepsTopics (f.work i s).broker
      cases hd : f.desks[i]? with
      | none =>
          rw [work_of_none hd]
          exact .refl _
      | some d =>
          rw [work_eq hd]
          exact keepsTopics_of_does (d.worker.does_step s f.broker)

/-- A worker attends to the same posts after a step. -/
theorem attends_step {w : Worker} {s : Surroundings} {p : Post} :
    (w.step s b).worker.Attends p ↔ w.Attends p := by
  obtain ⟨consumer, phase, seenSignal, redelivery, hw⟩ := w.step_worker s b
  obtain ⟨hg, ht⟩ := Desk.group_of_does (w.does_step s b)
  have hconfiguration : (w.step s b).worker.configuration = w.configuration := by rw [hw]
  have hstage : (w.step s b).worker.stage = w.stage := by rw [hw]; rfl
  constructor
  · rintro ⟨h₁, h₂, h₃, h₄⟩
    exact ⟨hconfiguration ▸ h₁, hstage ▸ h₂, hg ▸ h₃, ht ▸ h₄⟩
  · rintro ⟨h₁, h₂, h₃, h₄⟩
    exact ⟨hconfiguration.trans h₁, hstage.trans h₂, hg.trans h₃, ht.trans h₄⟩

theorem attended_work (f : Fleet) (i : Nat) (s : Surroundings) (p : Post) :
    (f.work i s).Attended p ↔ f.Attended p := by
  cases hd : f.desks[i]? with
  | none => rw [work_of_none hd]
  | some d =>
      rw [work_eq hd]
      constructor
      · rintro ⟨j, x, hx, hat⟩
        rcases (Session.member_set hd).mp hx with ⟨-, rfl⟩ | ⟨-, hx⟩
        · exact ⟨i, d, hd, attends_step.mp hat⟩
        · exact ⟨j, x, hx, hat⟩
      · rintro ⟨j, x, hx, hat⟩
        by_cases hj : j = i
        · obtain rfl : x = d := Option.some.inj (hx.symm.trans (hj ▸ hd))
          exact ⟨i, _, (Session.member_set hd).mpr (.inl ⟨rfl, rfl⟩), attends_step.mpr hat⟩
        · exact ⟨j, x, (Session.member_set hd).mpr (.inr ⟨hj, hx⟩), hat⟩

theorem attended_start (c : Container) (f : Fleet) (p : Post) :
    (f.move c .start).Attended p ↔
      f.Attended p ∨ ∃ w ∈ (c.start f.broker).workers, w.Attends p := by
  have hmem (l : List Desk) : (∃ (i : Nat) (d : Desk), l[i]? = some d ∧ d.worker.Attends p) ↔
      ∃ d ∈ l, d.worker.Attends p := by
    simp only [List.mem_iff_getElem?]
    exact ⟨fun ⟨i, d, hd, h⟩ => ⟨d, ⟨i, hd⟩, h⟩, fun ⟨d, ⟨i, hd⟩, h⟩ => ⟨i, d, hd, h⟩⟩
  simp only [Attended, hmem]
  simp [move, or_and_right, exists_or]

/-- A post is attended to from when it was. -/
theorem Attended.move {p : Post} (h : f.Attended p) (m : Move) : (f.move c m).Attended p := by
  cases m with
  | publish _ _ | create _ | refuse _ => exact h
  | start => exact (attended_start c f p).mpr (.inl h)
  | work i s => exact (attended_work f i s p).mpr h

/-! ### Runs -/

theorem run_append (c : Container) (moves after : List Move) :
    run c (moves ++ after) = after.foldl (move c) (run c moves) := by
  simp [run]

/-- What holds after some moves and is kept by every move. -/
theorem run_induction {P : Fleet → Prop} {moves : List Move} (h : P (run c moves))
    (hmove : ∀ f m, P f → P (f.move c m)) (after : List Move) : P (run c (moves ++ after)) := by
  rw [run_append]
  generalize run c moves = f at h
  induction after generalizing f with
  | nil => exact h
  | cons m after ih => exact ih _ (hmove f m h)

/-- Who has a worker at a post has one at each post of its main topic from which records are
taken. -/
theorem staffed_run (hc : c.Built) (moves : List Move) {p : Post} (hp : p ∈ c.posts) {s : Stage}
    (hs : s ∈ p.configuration.chain.stages) (hcons : s.role.isConsumed = true)
    (hat : (run c moves).Attended p) : (run c moves).Attended { p with stage := s } := by
  induction moves using List.reverseRecOn with
  | nil =>
      obtain ⟨i, d, hd, -⟩ := hat
      cases hd
  | append_singleton moves m ih =>
      rw [run_concat] at hat ⊢
      cases m with
      | publish _ _ | create _ | refuse _ => exact ih hat
      | start =>
          rw [attended_start] at hat ⊢
          rcases hat with hat | hat
          · exact .inl (ih hat)
          · exact .inr (Container.staffed_start hc _ p hp hat s hs hcons)
      | work i x => exact (attended_work _ i x _).mpr (ih ((attended_work _ i x _).mp hat))

/-- What workers do with a record comes to a post of its main topic. -/
theorem passesOn_of_fits (hc : c.Built) (hosts : ∀ p ∈ c.posts, b.Hosts p.request) {w : Worker}
    {r : Record} {p : Post} (hat : w.At c r p) {route : Route} {stage : Stage}
    (hoffers : w.configuration.resolver.Offers w.stage route) (hs : route.stage? = some stage)
    {copy : Outgoing} (ht : copy.topic = stage.topicFor (w.mainTopic r))
    (hk : copy.partition = stage.preservedPartition r.partition) : w.PassesOn c b r copy := by
  rw [← hat.configuration, ← hat.stage] at hoffers
  rw [← hat.main] at ht
  exact ⟨p, route, stage, hat, hoffers, hs, lands hc hosts hat.mem (hoffers.mem hs) ht hk⟩

/-- **Connections**, whatever happens after a start that finds no topic with too few partitions. -/
theorem run_connects (hc : c.Built) (hauto : ∀ x ∈ c.endpoints, x.2.creation.enabled = true)
    {before : List Move} (hbefore : ∀ p ∈ c.posts, p.topic ∈ (run c before).broker.topicNames →
      p.stage.creation.partitions ≤ (run c before).broker.partitionCount p.topic)
    (after : List Move) : Connects c (run c (before ++ .start :: after)) := by
  have hrun : run c (before ++ .start :: after) = run c (before ++ [.start] ++ after) := by simp
  rw [hrun]
  have hs := sound_run c (before ++ [.start] ++ after)
  have hosts : ∀ p ∈ c.posts, (run c (before ++ [.start] ++ after)).broker.Hosts p.request := by
    intro p hp
    refine run_induction (P := fun f => f.broker.Hosts p.request) ?_
      (fun f m h => h.mono (keepsTopics_move c f m)) after
    rw [run_concat]
    exact Container.hosts_start hc hauto hbefore p hp
  constructor
  case hosts => exact hosts
  case decides =>
    intro w r s copy more hserves htopic hearly hp
    obtain ⟨p, hat⟩ := hserves.at htopic
    obtain ⟨-, route, stage, state, hr, hstage, rfl⟩ := Worker.publishing_of_early hearly hp
    exact passesOn_of_fits hc hosts hat (Desk.offers_routeOf? w s hr) hstage rfl rfl
  case publishes =>
    intro i d r copy more hd hp
    obtain ⟨p, hat⟩ := (hs.serves hd).at ((hs.orderly hd).topic r (congrArg Phase.record? hp))
    have hfit := (hs.orderly hd).fits
    rw [hp] at hfit
    cases hfit with
    | free h => cases h
    | early h _ => cases h
    | publishing hr hstage _ ht hk =>
        exact passesOn_of_fits hc hosts hat ((hs.orderly hd).offers _ hr) hstage ht hk
  case retries =>
    intro p hp hat attempts firstAttempt failure now stage hnext
    obtain ⟨hmem, hcons⟩ := isConsumed_of_next hc hp hnext
    obtain ⟨i, d, hd, hat⟩ := staffed_run hc _ hp hmem hcons hat
    obtain ⟨he, hm, -⟩ := Container.mem_posts.mp hp
    exact ⟨i, d, hd, hat.group,
      hat.mem_topics (Container.mem_posts.mpr ⟨he, hm, hmem⟩), hat.stage, hat.configuration⟩
  case attended =>
    intro b hout p hp hcons
    -- whether a start succeeds does not depend on the broker
    have hout := (Container.outcome_start_iff hc (run c before).broker).mpr
      ((Container.outcome_start_iff hc b).mp hout)
    refine run_induction (P := fun f => f.Attended p) ?_ (fun f m h => h.move m) after
    rw [run_concat, attended_start]
    exact .inr (Container.attends_start hc hout hp hcons)
  case outcome_iff => exact Container.outcome_start_iff hc

/-- A container with one retry that starts on a new broker. -/
theorem run_connects_once :
    Container.once.Built ∧ (∀ x ∈ Container.once.endpoints, x.2.creation.enabled = true) ∧
    (∀ p ∈ Container.once.posts, p.topic ∉ (run .once []).broker.topicNames) ∧
    Connects .once (run .once (failures 1)) := by
  have hauto : ∀ x ∈ Container.once.endpoints, x.2.creation.enabled = true := by decide +kernel
  have hnone : ∀ p : Post, p.topic ∉ (run .once []).broker.topicNames := by
    intro p h
    cases h
  exact ⟨Container.built_once, hauto, fun p _ => hnone p,
    @run_connects .once Container.built_once hauto [] (fun p _ h => absurd h (hnone p)) _⟩

end Fleet

end Redelivery
