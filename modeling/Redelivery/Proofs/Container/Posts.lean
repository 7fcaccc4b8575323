import Redelivery.Proofs.Chain.Shape
import Redelivery.Proofs.Container.Lookups

/-!
# Container — what the topics stand for

A `Post` is a stage of the chain of one of an endpoint's main topics.  Its topic is where records
wait for the stage, and its group takes them from there.

**One post a topic.**  In a container to which endpoints were added (`Container.Built`), every
topic is that of one post at most (`Built.eq_of_topic`): an endpoint is refused if one of its
topics is bound already.  The chains are chains that were built (`Built.planned`).
-/

namespace Redelivery

/-- A stage of the chain of one of an endpoint's main topics. -/
structure Post where
  endpoint : Endpoint
  configuration : Configuration
  main : String
  stage : Stage

namespace Post

/-- Where records wait for the stage. -/
def topic (p : Post) : String := p.stage.topicFor p.main

/-- The group that takes records for the stage. -/
def group (p : Post) : String := p.endpoint.group ++ p.stage.suffix

/-- The posts of the chain of a main topic, in order. -/
def ofMain (e : Endpoint) (configuration : Configuration) (main : String) : List Post :=
  configuration.chain.stages.map fun s => ⟨e, configuration, main, s⟩

end Post

/-- The configuration is that of a plan. -/
def Configuration.Planned (c : Configuration) : Prop :=
  ∃ (p : Plan) (draw : UInt32 → Nat), p.build draw = .ok c

/-- The chain of a plan's configuration is built from the plan and its rules for dead letters. -/
theorem Plan.chainSpec_build {p : Plan} {draw : UInt32 → Nat} {c : Configuration}
    (h : p.build draw = .ok c) : ∃ routing, Routing.ofList p.routing = .ok routing ∧
      (p.chainSpec routing).build draw = .ok c.chain := by
  simp only [Plan.build, bind, Except.bind, pure, Except.pure] at h
  split at h
  · cases h
  · split at h
    · cases h
    · split at h
      · cases h
      · rename_i scope _
        split at h
        · cases h
        · rename_i routing hrouting
          split at h
          · cases h
          · rename_i chain hchain
            cases h
            exact ⟨routing, hrouting, hchain⟩

/-- The chain of a plan's configuration. -/
theorem Plan.chain_build {p : Plan} {draw : UInt32 → Nat} {c : Configuration}
    (h : p.build draw = .ok c) : ∃ (s : ChainSpec) (draw : UInt32 → Nat),
      s.build draw = .ok c.chain := by
  obtain ⟨routing, -, h⟩ := Plan.chainSpec_build h
  exact ⟨_, _, h⟩

namespace Container

/-- The posts of all endpoints. -/
def posts (c : Container) : List Post :=
  c.endpoints.flatMap fun (e, configuration) => e.topics.flatMap (Post.ofMain e configuration)

/-- Containers of registered plans, to which endpoints were added.  One that is refused leaves its
traces in the registry. -/
inductive Built : Container → Prop where
  | new (registry : Registry) (settings : DispatcherSettings)
      (h : ∀ c ∈ registry.configurations, c.Planned) : Built { registry, settings }
  | add {c : Container} (hc : Built c) (e : Endpoint) : Built (c.addEndpoint e).2

theorem mem_posts {c : Container} {p : Post} :
    p ∈ c.posts ↔ (p.endpoint, p.configuration) ∈ c.endpoints ∧ p.main ∈ p.endpoint.topics ∧
      p.stage ∈ p.configuration.chain.stages := by
  obtain ⟨e, configuration, m, s⟩ := p
  simp only [posts, Post.ofMain, List.mem_flatMap, List.mem_map, Prod.exists, Post.mk.injEq]
  constructor
  · rintro ⟨e, configuration, h, m, hm, s, hs, rfl, rfl, rfl, rfl⟩
    exact ⟨h, hm, hs⟩
  · rintro ⟨h, hm, hs⟩
    exact ⟨e, configuration, h, m, hm, s, hs, rfl, rfl, rfl, rfl⟩

end Container

/-! ### Containers -/

theorem Post.map_topic_ofMain (e : Endpoint) (c : Configuration) (mains : List String) :
    (mains.flatMap (ofMain e c)).map Post.topic =
      (mains.flatMap (Binding.ofMainTopic c)).map Binding.topic := by
  simp only [List.map_flatMap, ofMain, Binding.ofMainTopic, List.map_map]
  refine congrArg (List.flatMap · mains) (funext fun m => ?_)
  conv_lhs => rw [← List.map_get_finRange c.chain.stages, List.map_map]
  rfl

namespace Container

/-- The topics of the posts are bound and differ from each other, and all configurations are those
of plans. -/
structure Bound (c : Container) : Prop where
  nodup : (c.posts.map Post.topic).Nodup
  bound : ∀ p ∈ c.posts, (c.registry.binding? p.topic).isSome
  registered : ∀ x ∈ c.registry.configurations, x.Planned
  planned : ∀ x ∈ c.endpoints, x.2.Planned

/-- An endpoint is refused, or all topics of its chains were free and are bound now. -/
theorem addEndpoint_cases (c : Container) (e : Endpoint) :
    ∃ r : Registry, r.configurations = c.registry.configurations ∧
      (∀ t, (c.registry.binding? t).isSome → (r.binding? t).isSome) ∧
      ((c.addEndpoint e).2 = { c with registry := r } ∨
        ∃ x ∈ c.registry.configurations,
          (c.addEndpoint e).2 = { c with registry := r, endpoints := c.endpoints ++ [(e, x)] } ∧
          ((e.topics.flatMap (Binding.ofMainTopic x)).map Binding.topic).Nodup ∧
          ∀ b ∈ e.topics.flatMap (Binding.ofMainTopic x),
            c.registry.binding? b.topic = none ∧ (r.binding? b.topic).isSome) := by
  rcases c.addEndpoint_eq e with ⟨err, he⟩ | he
  · exact ⟨c.registry, rfl, fun _ h => h, .inl (by rw [he])⟩
  · have hmono : ∀ t, (c.registry.binding? t).isSome →
        ((c.registry.bindTopics e.topics).2.binding? t).isSome := fun t h => by
      obtain ⟨b, hb⟩ := Option.isSome_iff_exists.mp h
      rw [Registry.binding?_bindTopics hb, Option.isSome_some]
    refine ⟨(c.registry.bindTopics e.topics).2, c.registry.configurations_bindTopics e.topics,
      hmono, ?_⟩
    rw [he]
    rcases c.registry.bindTopics_cases e.topics with
      ⟨err, hr⟩ | ⟨x, hreq, hr, ⟨hok, hnone⟩ | ⟨err, herr⟩⟩
    · exact .inl (by simp [hr, Except.toOption])
    · obtain ⟨hn, hfree, hbound⟩ := Registry.bindAll_eq_none hnone
      refine .inr ⟨x, Registry.mem_of_require hreq, by simp [hok, Except.toOption], hn,
        fun b hb => ⟨hfree b hb, ?_⟩⟩
      rw [hr, hbound b hb, Option.isSome_some]
    · exact .inl (by simp [herr, Except.toOption])

/-- An endpoint that is added keeps the posts apart. -/
theorem Bound.addEndpoint {c : Container} (hc : c.Bound) (e : Endpoint) :
    (c.addEndpoint e).2.Bound := by
  obtain ⟨r, hconf, hmono, h | ⟨x, hx, h, hn, hl⟩⟩ := c.addEndpoint_cases e
  · rw [h]
    exact ⟨hc.nodup, fun p hp => hmono _ (hc.bound p hp),
      fun y hy => hc.registered y (hconf ▸ hy), hc.planned⟩
  · have hposts : (c.addEndpoint e).2.posts =
        c.posts ++ e.topics.flatMap (Post.ofMain e x) := by simp [h, posts]
    have hnew : ∀ p ∈ e.topics.flatMap (Post.ofMain e x),
        ∃ b ∈ e.topics.flatMap (Binding.ofMainTopic x), b.topic = p.topic := fun p hp =>
      List.mem_map.mp (Post.map_topic_ofMain e x e.topics ▸ List.mem_map_of_mem hp)
    refine ⟨?_, fun p hp => ?_, ?_, ?_⟩
    · -- the topics of the new posts were free, and those of all others bound
      rw [hposts, List.map_append, Post.map_topic_ofMain]
      refine List.nodup_append.mpr ⟨hc.nodup, hn, fun t ht t' ht' heq => ?_⟩
      obtain ⟨p, hp, rfl⟩ := List.mem_map.mp ht
      obtain ⟨b, hb, rfl⟩ := List.mem_map.mp ht'
      have := hc.bound p hp
      rw [heq, (hl b hb).1] at this
      cases this
    · rw [h]
      rw [hposts] at hp
      rcases List.mem_append.mp hp with hp | hp
      · exact hmono _ (hc.bound p hp)
      · obtain ⟨b, hb, e⟩ := hnew p hp
        exact e ▸ (hl b hb).2
    · rw [h]
      exact fun y hy => hc.registered y (hconf ▸ hy)
    · rw [h]
      intro y hy
      rcases List.mem_append.mp hy with hy | hy
      · exact hc.planned y hy
      · obtain rfl := List.mem_singleton.mp hy
        exact hc.registered x hx

theorem Built.bound {c : Container} (hc : c.Built) : c.Bound := by
  induction hc with
  | new registry settings h => exact ⟨by simp [posts], by simp [posts], h, by simp⟩
  | add _ e ih => exact ih.addEndpoint e

/-- **One post a topic.** -/
theorem Built.eq_of_topic {c : Container} (hc : c.Built) {p q : Post} (hp : p ∈ c.posts)
    (hq : q ∈ c.posts) (h : p.topic = q.topic) : p = q :=
  List.inj_on_of_nodup_map hc.bound.nodup hp hq h

/-- The chain of an endpoint is one that was built. -/
theorem Built.planned {c : Container} (hc : c.Built) {e : Endpoint} {x : Configuration}
    (he : (e, x) ∈ c.endpoints) :
    ∃ (s : ChainSpec) (draw : UInt32 → Nat), s.build draw = .ok x.chain := by
  obtain ⟨plan, draw, h⟩ := hc.bound.planned _ he
  exact Plan.chain_build h

/-- A main topic is that of a post. -/
theorem Built.exists_post {c : Container} (hc : c.Built) {e : Endpoint} {x : Configuration}
    (he : (e, x) ∈ c.endpoints) {t : String} (ht : t ∈ e.topics) :
    ∃ p ∈ c.posts, p.topic = t ∧ p.main = t ∧ p.configuration = x ∧ p.stage = x.chain.main := by
  obtain ⟨s, draw, h⟩ := hc.planned he
  have hsuffix : x.chain.main.suffix = "" := by
    rw [(ChainSpec.build_eq_ok h).2.2.1]
    rfl
  refine ⟨⟨e, x, t, x.chain.main⟩, mem_posts.mpr ⟨he, ht, List.mem_cons_self ..⟩, ?_, rfl, rfl,
    rfl⟩
  rw [Post.topic, Stage.topicFor, hsuffix, String.append_empty]

end Container

/-! ### A short container -/

/-- One retry for the records of one topic, and no dead letters. -/
def Plan.once : Plan where
  maxAttempts := 2
  allowed := ["orders"]
  strategy := .noDeadLetters

/-- The configuration of the plan for one retry. -/
def Configuration.once : Configuration where
  name := "orders"
  resolver := { chain := .once, classifier := Plan.once.classifier, timeout := none }
  scope := ((Scope.ofTexts ["orders"] [] .exact true).toOption).getD ⟨[], []⟩
  handler := none
  strategy := .noDeadLetters
  concurrency := none
  creation := {}

/-- A container whose only endpoint has one retry. -/
def Container.once : Container :=
  (addEndpoint { registry := Registry.register {} .once }
    { id := "orders", group := "g", topics := ["orders"] }).2

theorem Container.built_once : Container.once.Built := by
  refine .add (.new _ _ fun c hc => ?_) _
  obtain rfl : c = .once := by simpa [Registry.register] using hc
  exact ⟨.once, fun _ => 0, rfl⟩

/-- One retry for the records of one topic, and one topic for dead letters. -/
def Plan.kept : Plan where
  maxAttempts := 2
  allowed := ["orders"]

/-- The configuration of the plan for one retry and dead letters. -/
def Configuration.kept : Configuration :=
  let spec := Plan.kept.chainSpec .empty
  { Configuration.once with
    resolver :=
      { chain := ⟨spec.stage [1000] "" 0 .main none,
          [spec.stage [1000] "-retry-0" 1000 .retry none,
            spec.stage [1000] "-dlt" 0 .deadLetter none]⟩
        classifier := Plan.kept.classifier
        timeout := none }
    strategy := .failOnError }

/-- A container whose only endpoint has one retry and dead letters. -/
def Container.kept : Container :=
  (addEndpoint { registry := Registry.register {} .kept }
    { id := "orders", group := "g", topics := ["orders"] }).2

theorem Container.built_kept : Container.kept.Built := by
  refine .add (.new _ _ fun c hc => ?_) _
  obtain rfl : c = .kept := by simpa [Registry.register] using hc
  exact ⟨.kept, fun _ => 0, rfl⟩

end Redelivery
