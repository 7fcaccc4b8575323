import Redelivery.Proofs.Broker.Topics
import Redelivery.Proofs.Container.Requests
import Redelivery.Proofs.Fleet.Run

/-!
# Fleet — what a start brings about

A start creates a topic for every post, where all configurations create topics
(`topicsToCreate_eq`), and so each of them exists afterwards with its partitions (`hosts_start`).

**Staff.**  A worker attends to the posts of its stage (`Worker.Attends`).  All stages of an
endpoint are served or none is: whoever has a worker at one of its posts has one at every other post
of the same main topic from which records are taken (`Container.Staffed`, `staffed_start`).  None is
served of an endpoint without topics, at which the start fails (`outcome_start_iff`).
-/

namespace Redelivery

/-- The worker takes the records of the post. -/
structure Worker.Attends (w : Worker) (p : Post) : Prop where
  configuration : w.configuration = p.configuration
  stage : w.stage = p.stage
  group : w.consumer.group = p.group
  topics : w.consumer.topics = p.endpoint.topics.map p.stage.topicFor

/-- A worker takes records from the topic of a post that it attends to. -/
theorem Worker.Attends.mem_topics {c : Container} {w : Worker} {p : Post} (h : w.Attends p)
    (hp : p ∈ c.posts) : p.topic ∈ w.consumer.topics := by
  rw [h.topics]
  exact List.mem_map_of_mem (Container.mem_posts.mp hp).2.1

namespace Container

variable {c : Container} {b : Broker}

/-! ### Topics -/

/-- The topics that are created are those of the posts. -/
theorem topicsToCreate_eq (hc : c.Built)
    (hauto : ∀ x ∈ c.endpoints, x.2.creation.enabled = true) :
    c.topicsToCreate = c.posts.map Post.request := by
  have hall : c.posts.filter Post.isCreated = c.posts :=
    List.filter_eq_self.mpr fun p hp => hauto _ (mem_posts.mp hp).1
  rw [topicsToCreate_eq_filter hc.bound.nodup, hall]

/-- **Topics after a start**, if none of them existed before with fewer partitions. -/
theorem hosts_start (hc : c.Built) (hauto : ∀ x ∈ c.endpoints, x.2.creation.enabled = true)
    (h : ∀ p ∈ c.posts, p.topic ∈ b.topicNames →
      p.stage.creation.partitions ≤ b.partitionCount p.topic) :
    ∀ p ∈ c.posts, (c.start b).broker.Hosts p.request := by
  intro p hp
  change (b.createTopics c.topicsToCreate).Hosts p.request
  rw [topicsToCreate_eq hc hauto]
  refine Broker.hosts_createTopics ?_ ?_ p.request (List.mem_map_of_mem hp)
  · rw [List.map_map]
    exact hc.bound.nodup
  · rintro r hr
    obtain ⟨q, hq, rfl⟩ := List.mem_map.mp hr
    exact h q hq

/-! ### Workers -/

theorem Built.located (hc : c.Built) : c.Located := by
  induction hc with
  | new registry settings _ => exact located_new registry settings
  | add _ e ih => exact ih.addEndpoint e

/-- The requests for the workers of an endpoint. -/
def staffing (c : Container) (x : Endpoint × Configuration) :
    List (Except ContainerError (List Worker)) :=
  (consumedStages x.2).map (c.stageWorkers x.1 x.2)

theorem start_eq (c : Container) (b : Broker) :
    c.start b = {
      workers := (collect (c.endpoints.flatMap c.staffing)).1
      broker := b.createTopics c.topicsToCreate
      outcome := (collect (c.endpoints.flatMap c.staffing)).2 } := rfl

/-- The consumer of a stage. -/
def stageConsumer (e : Endpoint) (s : Stage) : Consumer :=
  { group := e.group ++ s.suffix, topics := e.topics.map s.topicFor }

/-- A stage has its workers, unless the endpoint has no topics. -/
theorem Located.stageWorkers_eq (hc : c.Located) {x : Endpoint × Configuration}
    (hx : x ∈ c.endpoints) (i : Fin x.2.chain.stages.length) :
    (x.1.topics = [] ∧ ∃ err, c.stageWorkers x.1 x.2 i = .error err) ∨
    (x.1.topics ≠ [] ∧ c.stageWorkers x.1 x.2 i =
      .ok ((List.range (c.workerCount x.1 x.2 (x.2.chain.stages.get i))).map
        (c.worker x.1 x.2 i (stageConsumer x.1 (x.2.chain.stages.get i))))) := by
  have hknown : ∀ t ∈ x.1.topics.map (x.2.chain.stages.get i).topicFor,
      ∃ b, c.registry.locate t = .ok b := by
    intro t ht
    obtain ⟨m, hm, rfl⟩ := List.mem_map.mp ht
    exact ⟨_, Registry.locate_eq_ok_iff.mpr (hc x hx m hm i)⟩
  simp only [stageWorkers]
  rw [forIn_locate hknown]
  cases htopics : x.1.topics with
  | nil => exact .inl ⟨rfl, _, rfl⟩
  | cons m ms =>
      refine .inr ⟨List.cons_ne_nil _ _, ?_⟩
      rw [stageConsumer, htopics]
      rfl

/-! ### Collecting workers -/

section

variable {l : List (Except ContainerError (List Worker))} {w : Worker}

/-- What is collected if nothing failed. -/
theorem mem_collect_of_ok (h : (collect l).2 = .ok ()) {r : Except ContainerError (List Worker)}
    (hr : r ∈ l) : ∃ ws, r = .ok ws ∧ ∀ w ∈ ws, w ∈ (collect l).1 := by
  induction l with
  | nil => cases hr
  | cons a l ih =>
      cases a with
      | error e => cases h
      | ok ws =>
          simp only [collect]
          rcases List.mem_cons.mp hr with rfl | hr
          · exact ⟨ws, rfl, fun w hw => List.mem_append_left _ hw⟩
          · obtain ⟨ws', rfl, hws'⟩ := ih h hr
            exact ⟨ws', rfl, fun w hw => List.mem_append_right _ (hws' w hw)⟩

theorem collect_eq_ok_iff : (collect l).2 = .ok () ↔ ∀ r ∈ l, ∃ ws, r = .ok ws := by
  constructor
  · intro h r hr
    obtain ⟨ws, hws, -⟩ := mem_collect_of_ok h hr
    exact ⟨ws, hws⟩
  · intro h
    cases hout : (collect l).2 with
    | ok u => rfl
    | error err =>
        obtain ⟨ws, hws⟩ := h _ (collect_eq_error hout)
        cases hws

theorem collect_append (h : (collect l).2 = .ok ())
    (l' : List (Except ContainerError (List Worker))) :
    (collect (l ++ l')).1 = (collect l).1 ++ (collect l').1 := by
  induction l with
  | nil => rfl
  | cons a l ih =>
      cases a with
      | error e => cases h
      | ok ws => simp only [List.cons_append, collect, ih h, List.append_assoc]

/-- Of lists in which all is well or nothing is, those that are collected from are collected
completely. -/
theorem mem_collect_flatMap {α : Type} {blocks : α → List (Except ContainerError (List Worker))}
    {xs : List α}
    (h : ∀ x ∈ xs, (∀ r ∈ blocks x, ∃ ws, r = .ok ws) ∨ ∀ r ∈ blocks x, ∃ e, r = .error e)
    (hw : w ∈ (collect (xs.flatMap blocks)).1) :
    ∃ x ∈ xs, (∃ ws, .ok ws ∈ blocks x ∧ w ∈ ws) ∧
      ∀ r ∈ blocks x, ∃ ws, r = .ok ws ∧ ∀ w ∈ ws, w ∈ (collect (xs.flatMap blocks)).1 := by
  induction xs with
  | nil => cases hw
  | cons x xs ih =>
      have ih := ih fun y hy => h y (List.mem_cons_of_mem _ hy)
      rw [List.flatMap_cons] at hw ⊢
      rcases h x (List.mem_cons_self ..) with hok | herr
      · have hout := collect_eq_ok_iff.mpr hok
        rw [collect_append hout] at hw ⊢
        rcases List.mem_append.mp hw with hw | hw
        · refine ⟨x, List.mem_cons_self .., mem_collect hw, fun r hr => ?_⟩
          obtain ⟨ws, rfl, hws⟩ := mem_collect_of_ok hout hr
          exact ⟨ws, rfl, fun w hw => List.mem_append_left _ (hws w hw)⟩
        · obtain ⟨y, hy, hmem, hall⟩ := ih hw
          refine ⟨y, List.mem_cons_of_mem _ hy, hmem, fun r hr => ?_⟩
          obtain ⟨ws, rfl, hws⟩ := hall r hr
          exact ⟨ws, rfl, fun w hw => List.mem_append_right _ (hws w hw)⟩
      · cases hblock : blocks x with
        | nil =>
            rw [hblock, List.nil_append] at hw
            rw [List.nil_append]
            obtain ⟨y, hy, hrest⟩ := ih hw
            exact ⟨y, List.mem_cons_of_mem _ hy, hrest⟩
        | cons r rs =>
            -- nothing is collected after a failure
            obtain ⟨e, rfl⟩ := herr r (hblock ▸ List.mem_cons_self ..)
            rw [hblock] at hw
            cases hw

end

/-! ### Staff -/

/-- Who has a worker at a post has one at each post of its main topic from which records are
taken. -/
def Staffed (c : Container) (l : List Worker) : Prop :=
  ∀ p ∈ c.posts, (∃ w ∈ l, w.Attends p) → ∀ s ∈ p.configuration.chain.stages,
    s.role.isConsumed = true → ∃ w ∈ l, w.Attends { p with stage := s }

/-- A stage is one of those from which records are taken. -/
theorem mem_consumedStages {x : Configuration} {s : Stage} (hs : s ∈ x.chain.stages)
    (hcons : s.role.isConsumed = true) :
    ∃ i ∈ consumedStages x, x.chain.stages.get i = s := by
  obtain ⟨i, hi⟩ := List.get_of_mem hs
  exact ⟨i, List.mem_filter.mpr ⟨List.mem_finRange i, by rw [hi]; exact hcons⟩, hi⟩

/-- A stage that could be staffed has a worker. -/
theorem Located.exists_attends (hc : c.Located) {p : Post} (hp : p ∈ c.posts)
    {l : List Worker}
    (h : ∀ r ∈ c.staffing (p.endpoint, p.configuration), ∃ ws, r = .ok ws ∧ ∀ w ∈ ws, w ∈ l)
    {s : Stage} (hs : s ∈ p.configuration.chain.stages) (hcons : s.role.isConsumed = true) :
    ∃ w ∈ l, w.Attends { p with stage := s } := by
  obtain ⟨he, hm, -⟩ := mem_posts.mp hp
  obtain ⟨i, hi, rfl⟩ := mem_consumedStages hs hcons
  obtain ⟨ws, hws, hl⟩ := h _ (List.mem_map_of_mem hi)
  rcases hc.stageWorkers_eq he i with ⟨hnil, -⟩ | ⟨-, hok⟩
  · change p.endpoint.topics = [] at hnil
    rw [hnil] at hm
    cases hm
  · obtain rfl := Except.ok.inj (hok.symm.trans hws)
    -- there is at least one
    have hzero : 0 ∈ List.range (c.workerCount p.endpoint p.configuration
        (p.configuration.chain.stages.get i)) :=
      List.mem_range.mpr (Nat.lt_of_lt_of_le Nat.one_pos (Nat.le_max_right ..))
    exact ⟨_, hl _ (List.mem_map_of_mem hzero), rfl, rfl, rfl, rfl⟩

/-- All stages of an endpoint can be staffed or none can. -/
theorem Located.staffing_cases (hc : c.Located) :
    ∀ x ∈ c.endpoints, (∀ r ∈ c.staffing x, ∃ ws, r = .ok ws) ∨
      ∀ r ∈ c.staffing x, ∃ e, r = .error e := by
  intro x hx
  by_cases htopics : x.1.topics = []
  · refine .inr fun r hr => ?_
    obtain ⟨i, -, rfl⟩ := List.mem_map.mp hr
    rcases hc.stageWorkers_eq hx i with ⟨-, herr⟩ | ⟨hne, -⟩
    · exact herr
    · exact absurd htopics hne
  · refine .inl fun r hr => ?_
    obtain ⟨i, -, rfl⟩ := List.mem_map.mp hr
    rcases hc.stageWorkers_eq hx i with ⟨hnil, -⟩ | ⟨-, hok⟩
    · exact absurd hnil htopics
    · exact ⟨_, hok⟩

/-- **Workers after a start.** -/
theorem staffed_start (hc : c.Built) (b : Broker) : c.Staffed (c.start b).workers := by
  rintro p hp ⟨w, hw, hat⟩ s hs hcons
  rw [start_eq] at hw ⊢
  obtain ⟨x, hx, ⟨ws, hws, hmem⟩, hall⟩ :=
    mem_collect_flatMap hc.located.staffing_cases hw
  -- the worker was started for the endpoint of the post
  obtain ⟨i, -, hok⟩ := List.mem_map.mp hws
  obtain ⟨n, rfl⟩ := mem_stageWorkers hok hmem
  have htopic := hat.mem_topics hp
  obtain ⟨m, hm, ht⟩ := List.mem_map.mp htopic
  obtain rfl : p = ⟨x.1, x.2, m, x.2.chain.stages.get i⟩ :=
    hc.eq_of_topic hp (mem_posts.mpr ⟨hx, hm, List.get_mem ..⟩) ht.symm
  exact hc.located.exists_attends hp hall hs hcons

/-- A start succeeds if every endpoint has a topic. -/
theorem outcome_start_iff (hc : c.Built) (b : Broker) :
    (c.start b).outcome = .ok () ↔ ∀ x ∈ c.endpoints, x.1.topics ≠ [] := by
  rw [start_eq]
  dsimp only
  rw [collect_eq_ok_iff]
  constructor
  · intro h x hx htopics
    obtain ⟨spec, draw, hbuild⟩ := hc.planned hx
    -- records are taken from the main stage of every chain
    have hmain : x.2.chain.main.role.isConsumed = true := by
      rw [(ChainSpec.build_eq_ok hbuild).2.2.1]
      rfl
    obtain ⟨i, hi, -⟩ := mem_consumedStages (x := x.2) (List.mem_cons_self ..) hmain
    obtain ⟨ws, hws⟩ := h _ (List.mem_flatMap.mpr ⟨x, hx, List.mem_map_of_mem hi⟩)
    rcases hc.located.stageWorkers_eq hx i with ⟨-, err, herr⟩ | ⟨hne, -⟩
    · rw [herr] at hws
      cases hws
    · exact hne htopics
  · intro h r hr
    obtain ⟨x, hx, hr⟩ := List.mem_flatMap.mp hr
    obtain ⟨i, -, rfl⟩ := List.mem_map.mp hr
    rcases hc.located.stageWorkers_eq hx i with ⟨hnil, -⟩ | ⟨-, hok⟩
    · exact absurd hnil (h x hx)
    · exact ⟨_, hok⟩

/-- After a start that succeeded all posts have a worker from which records are taken. -/
theorem attends_start (hc : c.Built) {b : Broker} (h : (c.start b).outcome = .ok ()) {p : Post}
    (hp : p ∈ c.posts) (hcons : p.stage.role.isConsumed = true) :
    ∃ w ∈ (c.start b).workers, w.Attends p := by
  rw [start_eq] at h ⊢
  obtain ⟨he, -, hs⟩ := mem_posts.mp hp
  exact hc.located.exists_attends hp (fun r hr =>
    mem_collect_of_ok h (List.mem_flatMap.mpr ⟨_, he, hr⟩)) hs hcons

end Container

end Redelivery
