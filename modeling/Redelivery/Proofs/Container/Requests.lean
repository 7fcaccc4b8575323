import Redelivery.Proofs.Container.Posts
import Redelivery.Report

/-!
# Container — the topics to create

Two lists of topics to create are made of the same endpoints.  A container asks for each name once
and passes over what it has asked for before; a report asks for the topics of one endpoint after
the other.

**One list** (`Report.agrees_ofEndpoints`).  The topics of endpoints that could be bound one after
the other differ from each other (`Registry.Binds.apart`), so that there is nothing to pass over:
both lists have the request of each post whose configuration creates topics, once and in order, and
no other (`Container.topicsToCreate_eq_filter`).
-/

namespace Redelivery

/-- The topic that is created for a post. -/
def Post.request (p : Post) : TopicRequest :=
  ⟨p.topic, p.stage.creation.partitions, p.stage.creation.replication⟩

/-- The topic of the post is created if it does not exist. -/
def Post.isCreated (p : Post) : Bool := p.configuration.creation.enabled

/-- The requests for the chain of a main topic. -/
theorem Configuration.topicsToCreate_eq (x : Configuration) (e : Endpoint) (m : String) :
    x.topicsToCreate m = ((Post.ofMain e x m).filter Post.isCreated).map Post.request := by
  cases hx : x.creation.enabled with
  | true =>
      have hall : (Post.ofMain e x m).filter Post.isCreated = Post.ofMain e x m := by
        refine List.filter_eq_self.mpr fun p hp => ?_
        obtain ⟨s, -, rfl⟩ := List.mem_map.mp hp
        exact hx
      rw [hall, topicsToCreate, if_pos hx, Post.ofMain, List.map_map]
      rfl
  | false =>
      have hnone : (Post.ofMain e x m).filter Post.isCreated = [] := by
        refine List.filter_eq_nil_iff.mpr fun p hp => ?_
        obtain ⟨s, -, rfl⟩ := List.mem_map.mp hp
        simp [Post.isCreated, hx]
      rw [hnone, topicsToCreate, if_neg (by simp [hx])]
      rfl

namespace Container

variable {c : Container}

/-- The requests of all endpoints are those of the posts whose topics are created. -/
theorem requests_eq (c : Container) :
    (c.endpoints.flatMap fun x => x.1.topics.flatMap x.2.topicsToCreate) =
      (c.posts.filter Post.isCreated).map Post.request := by
  simp only [posts, List.filter_flatMap, List.map_flatMap]
  refine List.flatMap_congr fun x _ => List.flatMap_congr fun m _ => ?_
  exact x.2.topicsToCreate_eq x.1 m

theorem firstRequests_eq {seen : List String} {l : List TopicRequest}
    (hn : (l.map TopicRequest.name).Nodup) (hs : ∀ r ∈ l, r.name ∉ seen) :
    firstRequests seen l = l := by
  induction l generalizing seen with
  | nil => rfl
  | cons r l ih =>
      obtain ⟨hr, hn⟩ := List.nodup_cons.mp hn
      have hseen : seen.contains r.name = false := by simpa using hs r (List.mem_cons_self ..)
      rw [firstRequests, hseen, if_neg Bool.false_ne_true, ih hn fun x hx hmem => ?_]
      rcases List.mem_cons.mp hmem with e | hmem
      · exact hr (e ▸ List.mem_map_of_mem hx)
      · exact hs x (List.mem_cons_of_mem _ hx) hmem

theorem map_name_request (l : List Post) :
    (l.map Post.request).map TopicRequest.name = l.map Post.topic := by
  rw [List.map_map]
  rfl

/-- The topics of the posts that are created differ, as those of all posts do. -/
theorem nodup_requests (hn : (c.posts.map Post.topic).Nodup) :
    (((c.posts.filter Post.isCreated).map Post.request).map TopicRequest.name).Nodup := by
  rw [map_name_request]
  exact hn.sublist (List.filter_sublist.map _)

/-- **Nothing is passed over** where the topics of the posts differ. -/
theorem topicsToCreate_eq_filter (hn : (c.posts.map Post.topic).Nodup) :
    c.topicsToCreate = (c.posts.filter Post.isCreated).map Post.request := by
  change firstRequests [] (c.endpoints.flatMap fun x =>
    x.1.topics.flatMap x.2.topicsToCreate) = _
  rw [requests_eq]
  exact firstRequests_eq (nodup_requests hn) (by simp)

end Container

/-! ### Endpoints that are bound one after the other -/

namespace Registry

/-- The topics of endpoints are bound one after the other, each to its configuration. -/
inductive Binds : Registry → List (Endpoint × Configuration) → Registry → Prop where
  | nil (r : Registry) : Binds r [] r
  | cons {r r₁ r' : Registry} {e : Endpoint} {x : Configuration}
      {rest : List (Endpoint × Configuration)} (h : r.bindTopics e.topics = (.ok x, r₁))
      (hrest : Binds r₁ rest r') : Binds r ((e, x) :: rest) r'

/-- A container with endpoints that were bound. -/
def serving (r : Registry) (settings : DispatcherSettings)
    (bound : List (Endpoint × Configuration)) : Container :=
  { registry := r, settings, endpoints := bound }

/-- The topics of an endpoint that is bound were free, and differ from each other. -/
theorem apart_of_bindTopics {r r₁ : Registry} {e : Endpoint} {x : Configuration}
    (h : r.bindTopics e.topics = (.ok x, r₁)) :
    ((e.topics.flatMap (Post.ofMain e x)).map Post.topic).Nodup ∧
      ∀ p ∈ e.topics.flatMap (Post.ofMain e x),
        r.binding? p.topic = none ∧ (r₁.binding? p.topic).isSome := by
  rcases r.bindTopics_cases e.topics with ⟨err, hr⟩ | ⟨y, -, hr, ⟨hok, hnone⟩ | ⟨err, herr⟩⟩
  · rw [hr] at h
    cases h
  · obtain rfl : y = x := Except.ok.inj (hok.symm.trans (congrArg Prod.fst h))
    obtain rfl : r₁ = (r.bindAll (e.topics.flatMap (Binding.ofMainTopic y))).2 :=
      (congrArg Prod.snd h).symm.trans hr
    obtain ⟨hn, hfree, hbound⟩ := bindAll_eq_none hnone
    rw [Post.map_topic_ofMain]
    refine ⟨hn, fun p hp => ?_⟩
    obtain ⟨b, hb, heq⟩ := List.mem_map.mp
      (Post.map_topic_ofMain e y e.topics ▸ List.mem_map_of_mem (f := Post.topic) hp)
    rw [← heq, hfree b hb, hbound b hb]
    exact ⟨rfl, rfl⟩
  · rw [h] at herr
    cases herr

/-- **Apart.**  The topics of all endpoints that are bound were free, and differ from each other. -/
theorem Binds.apart {r r' : Registry} {bound : List (Endpoint × Configuration)}
    (h : r.Binds bound r') (settings : DispatcherSettings) :
    ((serving r' settings bound).posts.map Post.topic).Nodup ∧
      ∀ p ∈ (serving r' settings bound).posts, r.binding? p.topic = none := by
  induction h with
  | nil r => simp [serving, Container.posts]
  | @cons r r₁ r' e x rest h hrest ih =>
      obtain ⟨hn, hfree⟩ := apart_of_bindTopics h
      obtain ⟨hnrest, hfreerest⟩ := ih
      have hposts : (serving r' settings ((e, x) :: rest)).posts =
          e.topics.flatMap (Post.ofMain e x) ++ (serving r' settings rest).posts := by
        simp [serving, Container.posts]
      rw [hposts]
      constructor
      · -- what comes later was still free when the topics of the first endpoint were bound
        rw [List.map_append]
        refine List.nodup_append.mpr ⟨hn, hnrest, fun t ht t' ht' heq => ?_⟩
        obtain ⟨p, hp, rfl⟩ := List.mem_map.mp ht
        obtain ⟨q, hq, rfl⟩ := List.mem_map.mp ht'
        have hsome := (hfree p hp).2
        rw [heq, hfreerest q hq] at hsome
        cases hsome
      · intro p hp
        rcases List.mem_append.mp hp with hp | hp
        · exact (hfree p hp).1
        · by_contra hbound
          obtain ⟨b, hb⟩ := Option.ne_none_iff_exists'.mp hbound
          have hkept := binding?_bindTopics hb e.topics
          rw [h, hfreerest p hp] at hkept
          cases hkept

end Registry

/-- Endpoints that are bound are added to a container, if none of them is without workers. -/
theorem Container.addAll_of_binds {r r' : Registry} {bound : List (Endpoint × Configuration)}
    (h : r.Binds bound r') (hw : ∀ x ∈ bound, x.1.concurrency ≠ some 0)
    {c : Container} (hc : c.registry = r) :
    c.addAll (bound.map Prod.fst) =
      { c with registry := r', endpoints := c.endpoints ++ bound } := by
  induction h generalizing c with
  | nil r =>
      subst hc
      simp [addAll]
  | @cons r r₁ r' e x rest h hrest ih =>
      have hadd : (c.addEndpoint e).2 =
          { c with registry := r₁, endpoints := c.endpoints ++ [(e, x)] } := by
        unfold addEndpoint
        rw [if_neg (hw (e, x) (List.mem_cons_self ..)), hc, h]
      have hstep : c.addAll (((e, x) :: rest).map Prod.fst) =
          (c.addEndpoint e).2.addAll (rest.map Prod.fst) := rfl
      rw [hstep, hadd, ih (fun y hy => hw y (List.mem_cons_of_mem _ hy)) rfl]
      simp

namespace Report

/-- A report of endpoints that are bound is complete, and asks for the topics of each. -/
theorem ofEndpoints_of_binds {r r' : Registry} {bound : List (Endpoint × Configuration)}
    (h : r.Binds bound r') :
    (ofEndpoints r (bound.map Prod.fst)).outcome = .ok () ∧
      (ofEndpoints r (bound.map Prod.fst)).topics =
        bound.flatMap fun x => x.1.topics.flatMap x.2.topicsToCreate := by
  induction h with
  | nil r => exact ⟨rfl, rfl⟩
  | @cons r r₁ r' e x rest h hrest ih =>
      rw [List.map_cons, ofEndpoints, h]
      exact ⟨ih.1, congrArg _ ih.2⟩

/-- A report that is complete is one of endpoints that are bound. -/
theorem exists_binds {r : Registry} {es : List Endpoint}
    (h : (ofEndpoints r es).outcome = .ok ()) :
    ∃ bound r', r.Binds bound r' ∧ bound.map Prod.fst = es := by
  induction es generalizing r with
  | nil => exact ⟨[], r, .nil r, rfl⟩
  | cons e es ih =>
      rw [ofEndpoints] at h
      split at h
      · cases h
      · rename_i x r₁ hbind
        obtain ⟨bound, r', hbound, rfl⟩ := ih h
        exact ⟨(e, x) :: bound, r', .cons hbind hbound, rfl⟩

/-- A list asks for the topics that a container asks for, which are those of its posts. -/
structure Asks (topics : List TopicRequest) (c : Container) : Prop where
  topics_eq : topics = c.topicsToCreate
  /-- So a start of the container creates them. -/
  start : ∀ b, (c.start b).broker = b.createTopics topics
  /-- The container has passed over none. -/
  all : c.topicsToCreate = c.endpoints.flatMap fun x => x.1.topics.flatMap x.2.topicsToCreate
  nodup : (topics.map TopicRequest.name).Nodup
  /-- A topic is asked for once if its configuration creates topics, as its stage declares it. -/
  once : ∀ p ∈ c.posts, p.configuration.creation.enabled = true →
    topics.filter (·.name = p.topic) =
      [⟨p.topic, p.stage.creation.partitions, p.stage.creation.replication⟩]
  /-- It is not asked for if its configuration creates none. -/
  never : ∀ p ∈ c.posts, p.configuration.creation.enabled = false →
    ∀ t ∈ topics, t.name ≠ p.topic
  /-- Nothing else is asked for. -/
  only : ∀ t ∈ topics, ∃ p ∈ c.posts, p.configuration.creation.enabled = true ∧ t = p.request

theorem asks_of_apart {c : Container} (hn : (c.posts.map Post.topic).Nodup)
    {topics : List TopicRequest}
    (h : topics = c.endpoints.flatMap fun x => x.1.topics.flatMap x.2.topicsToCreate) :
    Asks topics c := by
  have hall : c.topicsToCreate =
      c.endpoints.flatMap fun x => x.1.topics.flatMap x.2.topicsToCreate :=
    (Container.topicsToCreate_eq_filter hn).trans c.requests_eq.symm
  have hnodup : (topics.map TopicRequest.name).Nodup := by
    rw [h, c.requests_eq]
    exact Container.nodup_requests hn
  have hmem : ∀ t, t ∈ topics ↔ ∃ p ∈ c.posts, p.isCreated = true ∧ p.request = t := by
    intro t
    rw [h, c.requests_eq]
    simp only [List.mem_map, List.mem_filter, and_assoc]
  refine ⟨h.trans hall.symm, fun b => ?_, hall, hnodup, fun p hp hcreated => ?_,
    fun p hp hcreated t ht heq => ?_, fun t ht => ?_⟩
  · rw [h, ← hall]
    rfl
  · -- a name that differs from all others is found once
    have hp' : p.request ∈ topics := (hmem _).mpr ⟨p, hp, hcreated, rfl⟩
    have honly : ∀ t ∈ topics, t.name = p.topic ↔ t = p.request := fun t ht =>
      ⟨List.inj_on_of_nodup_map hnodup ht hp', fun h => h ▸ rfl⟩
    rw [List.filter_congr fun t ht => decide_eq_decide.mpr (honly t ht), List.filter_eq,
      List.count_eq_one_of_mem hnodup.of_map hp']
    rfl
  · obtain ⟨q, hq, hq', rfl⟩ := (hmem t).mp ht
    obtain rfl : q = p := List.inj_on_of_nodup_map hn hq hp heq
    rw [Post.isCreated, hcreated] at hq'
    cases hq'
  · obtain ⟨p, hp, hcreated, rfl⟩ := (hmem t).mp ht
    exact ⟨p, hp, hcreated, rfl⟩

/-- What can be said of the topics that a report of endpoints asks for. -/
structure Agrees (r : Registry) (es : List Endpoint) : Prop where
  /-- A report is complete if all endpoints can be bound one after the other, and only then. -/
  complete_iff : (ofEndpoints r es).outcome = .ok () ↔
    ∃ bound r', r.Binds bound r' ∧ bound.map Prod.fst = es
  /-- A report that is complete asks for what a container with these endpoints asks for. -/
  asks : ∀ {bound r'}, r.Binds bound r' → bound.map Prod.fst = es → ∀ settings,
    Asks (ofEndpoints r es).topics (r'.serving settings bound)
  /-- Such a container comes about by adding the endpoints, if none of them is without workers. -/
  addAll : ∀ {bound r'}, r.Binds bound r' → bound.map Prod.fst = es → ∀ settings,
    (∀ e ∈ es, e.concurrency ≠ some 0) →
      Container.addAll { registry := r, settings } es = r'.serving settings bound

/-- **Reports and containers** ask for the same topics, whatever endpoints are bound in whatever
registry. -/
theorem agrees_ofEndpoints (r : Registry) (es : List Endpoint) : Agrees r es where
  complete_iff := by
    refine ⟨exists_binds, ?_⟩
    rintro ⟨bound, r', h, rfl⟩
    exact (ofEndpoints_of_binds h).1
  asks := by
    rintro bound r' h rfl settings
    exact asks_of_apart (h.apart settings).1 (ofEndpoints_of_binds h).2
  addAll := by
    rintro bound r' h rfl settings hw
    exact Container.addAll_of_binds h (fun x hx => hw x.1 (List.mem_map_of_mem hx)) rfl

/-- The report for one topic with one retry asks for the topic and for the one of its retry. -/
theorem agrees_once :
    let r := Registry.register {} .once
    let e : Endpoint := { id := "orders", group := "g", topics := ["orders"] }
    let r' := (r.bindTopics e.topics).2
    let c := r'.serving {} [(e, .once)]
    r.Binds [(e, .once)] r' ∧ e.concurrency ≠ some 0 ∧
      (ofEndpoints r [e]).outcome = .ok () ∧
      (ofEndpoints r [e]).topics = [⟨"orders", 1, -1⟩, ⟨"orders-retry-0", 1, -1⟩] ∧
      Asks (ofEndpoints r [e]).topics c ∧
      Container.addAll { registry := r, settings := {} } [e] = c := by
  intro r e r' c
  have hbinds : r.Binds [(e, .once)] r' := .cons rfl (.nil _)
  have hagrees := agrees_ofEndpoints r [e]
  exact ⟨hbinds, nofun, hagrees.complete_iff.mpr ⟨_, _, hbinds, rfl⟩, by decide,
    hagrees.asks hbinds rfl {}, hagrees.addAll hbinds rfl {} (by simp [e])⟩

end Report

end Redelivery
