import Mathlib.Data.List.FinRange
import Mathlib.Data.List.Induction
import Mathlib.Data.List.Nodup
import Redelivery.Registry

/-!
# Registry — what is bound

A registry is asked to register configurations and to bind main topics, any number of times and in
any order (`Registry.Call`, `Registry.run`).  Topics are bound one by one, so that a request that
fails leaves some of them bound.

**Bindings** (`sound_run`).  Whatever was asked of it, a registry has each topic under its own name,
and has it once (`Registry.Sound`): the names of topics are put together of main topics and
suffixes, but no two bindings spell the same name.  What is bound stays bound as it is
(`binding?_bindTopics`), and a request that succeeds has bound every topic that it was made for
(`binding?_of_bindTopics_eq_ok`).
-/

namespace Redelivery

namespace Registry

/-- What is asked of a registry. -/
inductive Call where
  | register (c : Configuration)
  | bind (mainTopics : List String)

/-- The registry after a request, which may have failed. -/
def call (r : Registry) : Call → Registry
  | .register c => r.register c
  | .bind mainTopics => (r.bindTopics mainTopics).2

/-- The registry after requests that follow each other. -/
def run (calls : List Call) : Registry := calls.foldl call {}

theorem run_concat (calls : List Call) (x : Call) : run (calls ++ [x]) = (run calls).call x := by
  simp [run]

/-- Each topic is bound under its own name, and only once. -/
structure Sound (r : Registry) : Prop where
  topic_eq : ∀ x ∈ r.bindings, x.2.topic = x.1
  nodup : (r.bindings.map Prod.fst).Nodup

/-! ### Binding topics one by one -/

theorem binding?_cons (r : Registry) (b : Binding) (t : String) :
    binding? { r with bindings := (b.topic, b) :: r.bindings } t =
      if t = b.topic then some b else r.binding? t := by
  simp only [binding?, List.lookup_cons]
  by_cases h : t = b.topic
  · simp [h]
  · rw [beq_eq_false_iff_ne.mpr h, if_neg h]

theorem binding?_eq_none_iff {r : Registry} {t : String} :
    r.binding? t = none ↔ t ∉ r.bindings.map Prod.fst := by
  simp only [binding?, List.lookup_eq_none_iff, List.mem_map, not_exists, not_and]
  exact ⟨fun h x hx e => by simpa [e] using h x hx, fun h x hx => by
    simpa using fun e : t = x.1 => h x hx e.symm⟩

theorem configurations_bindAll (r : Registry) (l : List Binding) :
    (r.bindAll l).2.configurations = r.configurations := by
  induction l generalizing r with
  | nil => rfl
  | cons b l ih =>
      unfold bindAll
      split
      · rfl
      · exact ih _

/-- What is bound stays bound as it is. -/
theorem binding?_bindAll {r : Registry} {t : String} {x : Binding} (h : r.binding? t = some x)
    (l : List Binding) : (r.bindAll l).2.binding? t = some x := by
  induction l generalizing r with
  | nil => exact h
  | cons b l ih =>
      unfold bindAll
      split
      · exact h
      · rename_i hb
        refine ih ?_
        rw [binding?_cons, if_neg, h]
        rintro rfl
        rw [hb] at h
        cases h

/-- Topics that could all be bound differ from each other and were not bound before, and they are
bound now. -/
theorem bindAll_eq_none {r : Registry} {l : List Binding} (h : (r.bindAll l).1 = none) :
    (l.map Binding.topic).Nodup ∧ (∀ b ∈ l, r.binding? b.topic = none) ∧
      ∀ b ∈ l, (r.bindAll l).2.binding? b.topic = some b := by
  induction l generalizing r with
  | nil => simp
  | cons b l ih =>
      unfold bindAll at h ⊢
      split at h
      · cases h
      · rename_i hb
        obtain ⟨hn, hfree, hbound⟩ := ih h
        -- the others could be bound after this one, so that none of them is of the same topic
        have hne : ∀ x ∈ l, x.topic ≠ b.topic ∧ r.binding? x.topic = none := by
          intro x hx
          have := hfree x hx
          rw [binding?_cons] at this
          split at this
          · cases this
          · rename_i hne
            exact ⟨hne, this⟩
        refine ⟨?_, ?_, ?_⟩
        · rw [List.map_cons, List.nodup_cons]
          refine ⟨fun hm => ?_, hn⟩
          obtain ⟨x, hx, e⟩ := List.mem_map.mp hm
          exact (hne x hx).1 e
        · rintro x (_ | ⟨_, hx⟩)
          · exact hb
          · exact (hne x hx).2
        · rintro x (_ | ⟨_, hx⟩)
          · exact binding?_bindAll (by rw [binding?_cons, if_pos rfl]) l
          · exact hbound x hx

theorem Sound.bindAll {r : Registry} (hr : r.Sound) (l : List Binding) :
    (r.bindAll l).2.Sound := by
  induction l generalizing r with
  | nil => exact hr
  | cons b l ih =>
      unfold Registry.bindAll
      split
      · exact hr
      · rename_i hb
        refine ih ⟨?_, ?_⟩
        · rintro x (_ | ⟨_, hx⟩)
          · rfl
          · exact hr.topic_eq x hx
        · exact List.nodup_cons.mpr ⟨binding?_eq_none_iff.mp hb, hr.nodup⟩

/-! ### Requests -/

theorem mem_of_require {r : Registry} {topics : List String} {c : Configuration}
    (h : r.require topics = .ok c) : c ∈ r.configurations := by
  simp only [require, find] at h
  split at h
  · cases h
  · rename_i x hx
    have hmem : x ∈ r.configurations.filter (·.covers topics) := by
      rw [hx]
      exact List.mem_singleton_self x
    cases h
    exact (List.mem_filter.mp hmem).1
  · cases h

/-- A request to bind topics binds none of them if no configuration governs them, and else as many
as can be bound. -/
theorem bindTopics_cases (r : Registry) (topics : List String) :
    (∃ e, r.bindTopics topics = (.error e, r)) ∨
    ∃ c, r.require topics = .ok c ∧
      (r.bindTopics topics).2 = (r.bindAll (topics.flatMap (Binding.ofMainTopic c))).2 ∧
      ((r.bindTopics topics).1 = .ok c ∧
          (r.bindAll (topics.flatMap (Binding.ofMainTopic c))).1 = none ∨
        ∃ e, (r.bindTopics topics).1 = .error e) := by
  unfold bindTopics
  cases hreq : r.require topics with
  | error e => exact .inl ⟨e, rfl⟩
  | ok c =>
      refine .inr ⟨c, rfl, ?_⟩
      dsimp only
      generalize r.bindAll (topics.flatMap (Binding.ofMainTopic c)) = result
      obtain ⟨_ | e, r'⟩ := result
      · exact ⟨rfl, .inl ⟨rfl, rfl⟩⟩
      · exact ⟨rfl, .inr ⟨e, rfl⟩⟩

theorem configurations_bindTopics (r : Registry) (topics : List String) :
    (r.bindTopics topics).2.configurations = r.configurations := by
  rcases r.bindTopics_cases topics with ⟨e, h⟩ | ⟨c, -, h, -⟩
  · rw [h]
  · rw [h, configurations_bindAll]

theorem Sound.bindTopics {r : Registry} (hr : r.Sound) (topics : List String) :
    (r.bindTopics topics).2.Sound := by
  rcases r.bindTopics_cases topics with ⟨e, h⟩ | ⟨c, -, h, -⟩
  · rw [h]
    exact hr
  · rw [h]
    exact hr.bindAll _

theorem Sound.call {r : Registry} (hr : r.Sound) (x : Call) : (r.call x).Sound := by
  cases x with
  | register c => exact ⟨hr.topic_eq, hr.nodup⟩
  | bind topics => exact hr.bindTopics topics

/-- **Bindings of every registry.** -/
theorem sound_run (calls : List Call) : (run calls).Sound := by
  induction calls using List.reverseRecOn with
  | nil => exact ⟨by simp [run], by simp [run]⟩
  | append_singleton calls x ih =>
      rw [run_concat]
      exact ih.call x

/-- A request to bind topics leaves earlier bindings alone. -/
theorem binding?_bindTopics {r : Registry} {t : String} {b : Binding}
    (h : r.binding? t = some b) (topics : List String) :
    (r.bindTopics topics).2.binding? t = some b := by
  rcases r.bindTopics_cases topics with ⟨e, hr⟩ | ⟨c, -, hr, -⟩
  · rw [hr]
    exact h
  · rw [hr]
    exact binding?_bindAll h _

/-- A request that succeeds tells the configuration that governs the topics. -/
theorem require_of_bindTopics_eq_ok {r : Registry} {topics : List String} {c : Configuration}
    (h : (r.bindTopics topics).1 = .ok c) : r.require topics = .ok c := by
  rcases r.bindTopics_cases topics with ⟨e, hr⟩ | ⟨c', hreq, -, ⟨hok, -⟩ | ⟨e, he⟩⟩
  · rw [hr] at h
    cases h
  · exact hreq.trans (hok.symm.trans h)
  · rw [he] at h
    cases h

/-- A request that succeeds binds the topics of all stages. -/
theorem binding?_of_bindTopics_eq_ok {r : Registry} {topics : List String} {c : Configuration}
    (h : (r.bindTopics topics).1 = .ok c) {m : String} (hm : m ∈ topics)
    (i : Fin c.chain.stages.length) :
    (r.bindTopics topics).2.binding? ((c.chain.stages.get i).topicFor m) = some ⟨c, m, i⟩ := by
  rcases r.bindTopics_cases topics with ⟨e, hr⟩ | ⟨c', -, hr, ⟨hok, hnone⟩ | ⟨e, he⟩⟩
  · rw [hr] at h
    cases h
  · obtain rfl : c' = c := Except.ok.inj (hok.symm.trans h)
    rw [hr]
    refine (bindAll_eq_none hnone).2.2 ⟨c', m, i⟩ ?_
    exact List.mem_flatMap.mpr ⟨m, hm, List.mem_map.mpr ⟨i, List.mem_finRange i, rfl⟩⟩
  · rw [he] at h
    cases h

theorem locate_eq_ok_iff {r : Registry} {t : String} {b : Binding} :
    r.locate t = .ok b ↔ r.binding? t = some b := by
  unfold locate
  cases r.binding? t with
  | none => simp
  | some b' => simp

namespace Sound

variable {r : Registry} {t : String} {b : Binding}

theorem mem_of_binding? (h : r.binding? t = some b) : (t, b) ∈ r.bindings := by
  obtain ⟨l, l', hl, -⟩ := List.lookup_eq_some_iff.mp h
  rw [hl]
  simp

/-- A topic is bound as the stage that it is the topic of. -/
theorem topic_of_binding? (hr : r.Sound) (h : r.binding? t = some b) : b.topic = t :=
  hr.topic_eq _ (mem_of_binding? h)

end Sound

end Registry

end Redelivery
