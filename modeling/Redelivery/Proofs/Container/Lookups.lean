import Redelivery.Container
import Redelivery.Proofs.Registry.Bindings

/-!
# Container — topics that are looked up

Endpoints are added to a container one after the other (`Container.addAll`); each binds its topics
in the container's registry, or is refused.

**Lookups** (`Registry.bindings_run`).  A start looks up the topic of every stage that workers
serve.  The endpoint was added, so the topics of its chains were bound then, and no endpoint that
came later changed that (`Located`): a start does not fail for want of a binding.  A worker reads a
record's main topic off the name of its topic, and comes to the one that the binding has
(`Worker.mainTopic_of_binding?`).
-/

namespace Redelivery

namespace Container

/-- The container after endpoints were added, or refused, one after the other. -/
def addAll (c : Container) (es : List Endpoint) : Container :=
  es.foldl (fun c e => (c.addEndpoint e).2) c

/-- The topics of every endpoint's chains are bound to its configuration. -/
def Located (c : Container) : Prop :=
  ∀ x ∈ c.endpoints, ∀ m ∈ x.1.topics, ∀ i : Fin x.2.chain.stages.length,
    c.registry.binding? ((x.2.chain.stages.get i).topicFor m) = some ⟨x.2, m, i⟩

theorem located_new (r : Registry) (settings : DispatcherSettings) :
    Located { registry := r, settings } := by
  simp [Located]

theorem addAll_append (c : Container) (es fs : List Endpoint) :
    c.addAll (es ++ fs) = (c.addAll es).addAll fs := by
  simp [addAll]

/-! ### Adding endpoints -/

/-- An endpoint is refused at once, or else it is added if its topics could be bound. -/
theorem addEndpoint_eq (c : Container) (e : Endpoint) :
    (∃ err, c.addEndpoint e = (.error err, c)) ∨
    c.addEndpoint e =
      ((c.registry.bindTopics e.topics).1,
        { c with
          registry := (c.registry.bindTopics e.topics).2
          endpoints := c.endpoints ++
            (c.registry.bindTopics e.topics).1.toOption.toList.map (e, ·) }) := by
  unfold addEndpoint
  split
  · exact .inl ⟨_, rfl⟩
  · refine .inr ?_
    rcases c.registry.bindTopics e.topics with ⟨_ | x, r⟩
    · simp [Except.toOption]
    · simp [Except.toOption]

/-- Bindings outlast the adding of an endpoint. -/
theorem binding?_addEndpoint {c : Container} {t : String} {b : Binding}
    (h : c.registry.binding? t = some b) (e : Endpoint) :
    (c.addEndpoint e).2.registry.binding? t = some b := by
  rcases c.addEndpoint_eq e with ⟨err, he⟩ | he
  · rw [he]
    exact h
  · rw [he]
    exact Registry.binding?_bindTopics h e.topics

theorem Located.addEndpoint {c : Container} (hc : c.Located) (e : Endpoint) :
    (c.addEndpoint e).2.Located := by
  intro x hx m hm i
  -- the endpoint was there before, or it is the one that was added
  have hcases : x ∈ c.endpoints ∨ x.1 = e ∧ (c.registry.bindTopics e.topics).1 = .ok x.2 ∧
      (c.addEndpoint e).2.registry = (c.registry.bindTopics e.topics).2 := by
    rcases c.addEndpoint_eq e with ⟨err, he⟩ | he
    · rw [he] at hx
      exact .inl hx
    · rw [he] at hx ⊢
      rcases List.mem_append.mp hx with hx | hx
      · exact .inl hx
      · refine .inr ?_
        cases hres : (c.registry.bindTopics e.topics).1 with
        | error err => simp [hres, Except.toOption] at hx
        | ok y =>
            obtain rfl : x = (e, y) := by simpa [hres, Except.toOption] using hx
            exact ⟨rfl, rfl, rfl⟩
  rcases hcases with hx | ⟨rfl, hok, hreg⟩
  · exact binding?_addEndpoint (hc x hx m hm i) e
  · rw [hreg]
    exact Registry.binding?_of_bindTopics_eq_ok hok hm i

theorem Located.addAll {c : Container} (hc : c.Located) (es : List Endpoint) :
    (c.addAll es).Located := by
  induction es generalizing c with
  | nil => exact hc
  | cons e es ih => exact ih (hc.addEndpoint e)

/-- A container has the endpoints that it did not refuse. -/
theorem mem_endpoints_addEndpoint {c : Container} {e : Endpoint} {x : Configuration}
    (h : (c.addEndpoint e).1 = .ok x) : (e, x) ∈ (c.addEndpoint e).2.endpoints := by
  rcases c.addEndpoint_eq e with ⟨err, he⟩ | he
  · rw [he] at h
    cases h
  · rw [he] at h ⊢
    change (c.registry.bindTopics e.topics).1 = .ok x at h
    simp [h, Except.toOption]

theorem mem_endpoints_addAll {c : Container} {x : Endpoint × Configuration}
    (h : x ∈ c.endpoints) (es : List Endpoint) : x ∈ (c.addAll es).endpoints := by
  induction es generalizing c with
  | nil => exact h
  | cons e es ih =>
      have hadd : x ∈ (c.addEndpoint e).2.endpoints := by
        rcases c.addEndpoint_eq e with ⟨err, he⟩ | he
        · rwa [he]
        · rw [he]
          exact List.mem_append_left _ h
      exact ih hadd

/-! ### Starting -/

theorem collect_eq_error {l : List (Except ContainerError (List Worker))} {err : ContainerError}
    (h : (collect l).2 = .error err) : .error err ∈ l := by
  induction l with
  | nil => cases h
  | cons r l ih =>
      cases r with
      | error e =>
          obtain rfl : e = err := by simpa [collect] using h
          exact List.mem_cons_self ..
      | ok ws => exact List.mem_cons_of_mem _ (ih (by simpa [collect] using h))

/-- Lookups of topics that are bound. -/
theorem forIn_locate {r : Registry} {topics : List String}
    (h : ∀ t ∈ topics, ∃ b, r.locate t = .ok b) :
    (forIn topics PUnit.unit fun t _ => do
      let _ ← (r.locate t).mapError ContainerError.configuration
      pure (ForInStep.yield PUnit.unit)) = Except.ok PUnit.unit := by
  induction topics with
  | nil => rfl
  | cons t topics ih =>
      obtain ⟨b, hb⟩ := h t (List.mem_cons_self ..)
      rw [List.forIn_cons, hb]
      exact ih fun t ht => h t (List.mem_cons_of_mem _ ht)

/-- With its topics bound, it is the broker alone that may not serve a stage. -/
theorem stageWorkers_cases {c : Container} {e : Endpoint} {x : Configuration}
    {i : Fin x.chain.stages.length}
    (h : ∀ m ∈ e.topics, ∃ b, c.registry.locate ((x.chain.stages.get i).topicFor m) = .ok b) :
    (∃ ws, c.stageWorkers e x i = .ok ws) ∨
      ∃ err, c.stageWorkers e x i = .error (.broker err) := by
  have hknown : ∀ t ∈ e.topics.map (x.chain.stages.get i).topicFor,
      ∃ b, c.registry.locate t = .ok b := by simpa using h
  simp only [stageWorkers]
  rw [forIn_locate hknown]
  cases Consumer.join (e.group ++ (x.chain.stages.get i).suffix)
      (e.topics.map (x.chain.stages.get i).topicFor) with
  | error err => exact .inr ⟨err, rfl⟩
  | ok consumer => exact .inl ⟨_, rfl⟩

/-- **A start** does not fail for want of a binding. -/
theorem Located.start {c : Container} (hc : c.Located) (b : Broker) (err : ConfigurationError) :
    (c.start b).outcome ≠ .error (.configuration err) := by
  intro h
  have hmem := collect_eq_error h
  simp only [List.mem_flatMap, List.mem_map, Prod.exists] at hmem
  obtain ⟨e, x, he, i, -, hi⟩ := hmem
  have hlook : ∀ m ∈ e.topics, ∃ b,
      c.registry.locate ((x.chain.stages.get i).topicFor m) = .ok b := fun m hm =>
    ⟨_, Registry.locate_eq_ok_iff.mpr (hc (e, x) he m hm i)⟩
  rcases stageWorkers_cases hlook with ⟨ws, hok⟩ | ⟨err', herr⟩
  · rw [hok] at hi
    cases hi
  · rw [herr] at hi
    cases hi

end Container

/-! ### Workers -/

/-- A worker on the stage of a topic's binding reads the binding's main topic off the topic. -/
theorem Worker.mainTopic_of_binding? {r : Registry} (hr : r.Sound) {t : String} {b : Binding}
    (h : r.binding? t = some b) {w : Worker} (hw : w.stage = b.stage) {x : Record}
    (hx : x.topic = t) : w.mainTopic x = b.mainTopic := by
  rw [Worker.mainTopic, hx, hw, ← hr.topic_of_binding? h, Binding.topic, Stage.topicFor,
    Text.withoutSuffix_append]

namespace Registry

/-- What holds of the bindings of a registry, and of the containers that go on with it. -/
structure BindsWell (r : Registry) : Prop where
  /-- A topic is bound as the stage of a chain that it is the topic of. -/
  topic_eq : ∀ {k : String} {b : Binding}, r.binding? k = some b →
    b.configuration.chain.stages[b.stageIndex.val]? = some b.stage ∧ b.topic = k
  /-- No topic is bound twice, and no two bindings are of the same topic. -/
  unique : ∀ x ∈ r.bindings, ∀ y ∈ r.bindings, x.1 = y.1 ∨ x.2.topic = y.2.topic → x = y
  /-- A request to bind topics, even one that fails, leaves bindings as they are. -/
  keeps : ∀ (mains : List String) {k : String} {b : Binding}, r.binding? k = some b →
    (r.bindTopics mains).2.binding? k = some b
  /-- One that succeeds makes the topics of all stages known. -/
  locates : ∀ {mains : List String} {c : Configuration}, (r.bindTopics mains).1 = .ok c →
    r.require mains = .ok c ∧ ∀ m ∈ mains, ∀ i : Fin c.chain.stages.length,
      (r.bindTopics mains).2.locate (m ++ (c.chain.stages.get i).suffix) = .ok ⟨c, m, i⟩
  /-- So the topics of an endpoint that is accepted are known to the container from then on. -/
  accepts : ∀ (settings : DispatcherSettings) (es : List Endpoint) (e : Endpoint)
    (later : List Endpoint) {x : Configuration},
    ((Container.addAll { registry := r, settings } es).addEndpoint e).1 = .ok x →
      let c := Container.addAll { registry := r, settings } (es ++ e :: later)
      (e, x) ∈ c.endpoints ∧ ∀ m ∈ e.topics, ∀ i : Fin x.chain.stages.length,
        c.registry.locate (m ++ (x.chain.stages.get i).suffix) = .ok ⟨x, m, i⟩
  /-- A start finds all topics that it looks up. -/
  starts : ∀ (settings : DispatcherSettings) (es : List Endpoint) (b : Broker)
    (err : ConfigurationError),
    ((Container.addAll { registry := r, settings } es).start b).outcome ≠
      .error (.configuration err)
  /-- The name of a topic without the suffix of its stage is the main topic, and that is how a
  worker on the stage reads it. -/
  main_eq : ∀ {k : String} {b : Binding}, r.binding? k = some b →
    Text.withoutSuffix k b.stage.suffix = b.mainTopic ∧
      ∀ (w : Worker) (x : Record), w.stage = b.stage → x.topic = k → w.mainTopic x = b.mainTopic

/-- **Bindings and lookups** of every registry. -/
theorem bindings_run (calls : List Call) : (run calls).BindsWell := by
  have hr := sound_run calls
  constructor
  case topic_eq =>
    exact fun h => ⟨List.getElem?_eq_getElem _, hr.topic_of_binding? h⟩
  case unique =>
    intro x hx y hy h
    have hkey : x.1 = y.1 := h.elim id fun h => by rwa [hr.topic_eq x hx, hr.topic_eq y hy] at h
    exact List.inj_on_of_nodup_map hr.nodup hx hy hkey
  case keeps => exact fun mains _ _ h => binding?_bindTopics h mains
  case locates =>
    exact fun h => ⟨require_of_bindTopics_eq_ok h, fun m hm i =>
      locate_eq_ok_iff.mpr (binding?_of_bindTopics_eq_ok h hm i)⟩
  case accepts =>
    intro settings es e later x h
    have hmem : (e, x) ∈ (Container.addAll { registry := run calls, settings }
        (es ++ e :: later)).endpoints := by
      rw [Container.addAll_append]
      exact Container.mem_endpoints_addAll (Container.mem_endpoints_addEndpoint h) later
    have hloc := (Container.located_new (run calls) settings).addAll (es ++ e :: later)
    exact ⟨hmem, fun m hm i => locate_eq_ok_iff.mpr (hloc (e, x) hmem m hm i)⟩
  case starts =>
    intro settings es b err
    exact ((Container.located_new _ settings).addAll es).start b err
  case main_eq =>
    intro k b h
    refine ⟨?_, fun w x hw hx => Worker.mainTopic_of_binding? hr h hw hx⟩
    rw [← hr.topic_of_binding? h, Binding.topic, Stage.topicFor, Text.withoutSuffix_append]

end Registry

end Redelivery
