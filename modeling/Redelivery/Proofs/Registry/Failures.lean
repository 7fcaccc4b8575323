import Redelivery.Proofs.Container.Posts

/-!
# Registry — requests that fail

A request to bind main topics fails for want of a configuration, and then it binds nothing; or it
comes to a topic that is bound already, and then the topics before this one stay bound
(`Registry.Fails`, `bindTopics_eq_error_iff`).  They are bound for good, although no endpoint has
them, and stand in the way of later requests.

**Remains** (`failures_run`).  A request that fails leaves the bindings as they were just when it
had bound nothing, that is if no configuration governs its topics or the first topic of all is
bound already.  A request that fails halfway is not without effect (`bindTopics_halfway`).
-/

namespace Redelivery

/-- One retry for the records of all topics, and no dead letters. -/
def Configuration.everywhere : Configuration :=
  { Configuration.once with name := "*", scope := .all }

namespace Registry

/-- The registry with more topics bound, one after the other. -/
def bindEach (r : Registry) (l : List Binding) : Registry :=
  { r with bindings := (l.map fun b => (b.topic, b)).reverse ++ r.bindings }

/-- Topics can be bound one after the other: they differ from each other, and none of them is bound
yet. -/
structure Free (r : Registry) (l : List Binding) : Prop where
  nodup : (l.map Binding.topic).Nodup
  free : ∀ b ∈ l, r.binding? b.topic = none

/-- How a request to bind main topics fails, with what error, and what it leaves behind. -/
inductive Fails (r : Registry) (mains : List String) : ConfigurationError → Registry → Prop where
  /-- No configuration governs the topics. -/
  | ungoverned {e : ConfigurationError} (h : r.require mains = .error e) : Fails r mains e r
  /-- A topic was bound before the request or by it.  Those before it are bound, and none after
  it. -/
  | duplicate {c : Configuration} {done rest : List Binding} {b : Binding}
      (hc : r.require mains = .ok c)
      (hl : mains.flatMap (Binding.ofMainTopic c) = done ++ b :: rest) (hfree : r.Free done)
      (hb : ((r.bindEach done).binding? b.topic).isSome) :
      Fails r mains (.duplicateTopic b.topic) (r.bindEach done)

/-! ### Topics one by one -/

variable {r : Registry} {l done rest : List Binding} {b : Binding}

@[simp] theorem bindEach_nil (r : Registry) : r.bindEach [] = r := rfl

theorem bindEach_cons (r : Registry) (b : Binding) (l : List Binding) :
    r.bindEach (b :: l) = bindEach { r with bindings := (b.topic, b) :: r.bindings } l := by
  simp [bindEach]

theorem bindEach_bindings_eq_iff : (r.bindEach l).bindings = r.bindings ↔ l = [] := by
  simp [bindEach]

theorem free_nil (r : Registry) : r.Free [] := ⟨List.nodup_nil, by simp⟩

theorem free_cons : r.Free (b :: l) ↔
    r.binding? b.topic = none ∧ Free { r with bindings := (b.topic, b) :: r.bindings } l := by
  constructor
  · rintro ⟨hn, hfree⟩
    obtain ⟨hb, hn⟩ := List.nodup_cons.mp hn
    refine ⟨hfree b (List.mem_cons_self ..), hn, fun x hx => ?_⟩
    have hne : x.topic ≠ b.topic := fun e => hb (e ▸ List.mem_map_of_mem hx)
    rw [binding?_cons, if_neg hne]
    exact hfree x (List.mem_cons_of_mem _ hx)
  · rintro ⟨hb, hn, hfree⟩
    have hne : ∀ x ∈ l, x.topic ≠ b.topic ∧ r.binding? x.topic = none := by
      intro x hx
      have h := hfree x hx
      rw [binding?_cons] at h
      split at h
      · cases h
      · rename_i hne
        exact ⟨hne, h⟩
    refine ⟨List.nodup_cons.mpr ⟨fun hm => ?_, hn⟩, fun x hx => ?_⟩
    · obtain ⟨x, hx, e⟩ := List.mem_map.mp hm
      exact (hne x hx).1 e
    · rcases List.mem_cons.mp hx with rfl | hx
      · exact hb
      · exact (hne x hx).2

/-- **What is bound** of a list: all topics, or those before the first that is bound already. -/
theorem bindAll_eq (r : Registry) (l : List Binding) :
    (r.bindAll l = (none, r.bindEach l) ∧ r.Free l) ∨
    ∃ done b rest, l = done ++ b :: rest ∧ r.Free done ∧
      ((r.bindEach done).binding? b.topic).isSome ∧
      r.bindAll l = (some (.duplicateTopic b.topic), r.bindEach done) := by
  induction l generalizing r with
  | nil => exact .inl ⟨rfl, r.free_nil⟩
  | cons b l ih =>
      cases hb : r.binding? b.topic with
      | some x =>
          refine .inr ⟨[], b, l, rfl, r.free_nil, ?_, ?_⟩
          · rw [bindEach_nil, hb, Option.isSome_some]
          · simp only [bindAll, hb, bindEach_nil]
      | none =>
          -- the others are bound after this one
          have hstep : r.bindAll (b :: l) =
              bindAll { r with bindings := (b.topic, b) :: r.bindings } l := by
            simp only [bindAll, hb]
          rw [hstep]
          rcases ih { r with bindings := (b.topic, b) :: r.bindings } with
            ⟨hall, hfree⟩ | ⟨done, x, rest, rfl, hfree, hx, hall⟩
          · rw [bindEach_cons]
            exact .inl ⟨hall, free_cons.mpr ⟨hb, hfree⟩⟩
          · refine .inr ⟨b :: done, x, rest, rfl, free_cons.mpr ⟨hb, hfree⟩, ?_, ?_⟩
            · rwa [bindEach_cons]
            · rwa [bindEach_cons]

/-- The topic that a list stops at is the only one that it can stop at. -/
theorem bindAll_of_duplicate (hfree : r.Free done)
    (hb : ((r.bindEach done).binding? b.topic).isSome) :
    r.bindAll (done ++ b :: rest) = (some (.duplicateTopic b.topic), r.bindEach done) := by
  induction done generalizing r with
  | nil =>
      rw [bindEach_nil] at hb ⊢
      obtain ⟨x, hx⟩ := Option.isSome_iff_exists.mp hb
      simp only [List.nil_append, bindAll, hx]
  | cons x done ih =>
      obtain ⟨hx, hfree⟩ := free_cons.mp hfree
      rw [bindEach_cons] at hb ⊢
      rw [List.cons_append, bindAll, hx]
      exact ih hfree hb

/-- What is bound after topics were bound one after the other. -/
theorem binding?_bindEach (hfree : r.Free l) (t : String) :
    (r.bindEach l).binding? t = (l.find? (·.topic = t)).or (r.binding? t) := by
  induction l generalizing r with
  | nil => rfl
  | cons b l ih =>
      obtain ⟨-, hfree'⟩ := free_cons.mp hfree
      rw [bindEach_cons, ih hfree', binding?_cons, List.find?_cons]
      by_cases ht : t = b.topic
      · -- no other topic of the list is the same
        have hnone : l.find? (·.topic = t) = none := by
          refine List.find?_eq_none.mpr fun x hx => ?_
          have hb := (List.nodup_cons.mp hfree.nodup).1
          simpa [ht] using fun e : x.topic = b.topic => hb (e ▸ List.mem_map_of_mem hx)
        rw [hnone, if_pos ht]
        simp [ht]
      · simp [ht, Ne.symm ht]

/-! ### Requests -/

variable {mains : List String} {e : ConfigurationError} {r' : Registry}

/-- **Requests that fail**, and how. -/
theorem bindTopics_eq_error_iff :
    r.bindTopics mains = (.error e, r') ↔ r.Fails mains e r' := by
  constructor
  · intro h
    unfold bindTopics at h
    split at h
    · rename_i err hreq
      cases h
      exact .ungoverned hreq
    · rename_i c hreq
      rcases r.bindAll_eq (mains.flatMap (Binding.ofMainTopic c)) with
        ⟨hall, -⟩ | ⟨done, b, rest, hl, hfree, hb, hall⟩
      · rw [hall] at h
        cases h
      · rw [hall] at h
        cases h
        exact .duplicate hreq hl hfree hb
  · intro h
    unfold bindTopics
    cases h with
    | ungoverned h => rw [h]
    | duplicate hc hl hfree hb =>
        rw [hc]
        dsimp only
        rw [hl, bindAll_of_duplicate hfree hb]

/-- The topic that is bound first for a list of main topics. -/
def firstTopic? (c : Configuration) (mains : List String) : Option String :=
  ((mains.flatMap (Binding.ofMainTopic c)).map Binding.topic).head?

/-- A request that fails has no effect just when it binds nothing. -/
theorem Fails.bindings_eq_iff (h : r.Fails mains e r') : r'.bindings = r.bindings ↔
    ∀ c, r.require mains = .ok c → ∃ t, firstTopic? c mains = some t ∧ (r.binding? t).isSome := by
  cases h with
  | ungoverned h => simp [h]
  | @duplicate c done rest b hc hl hfree hb =>
      rw [bindEach_bindings_eq_iff]
      constructor
      · rintro rfl x hx
        obtain rfl := Except.ok.inj (hc.symm.trans hx)
        rw [bindEach_nil] at hb
        exact ⟨b.topic, by simp [firstTopic?, hl], hb⟩
      · intro hall
        obtain ⟨t, ht, hsome⟩ := hall c hc
        cases done with
        | nil => rfl
        | cons x done =>
            -- its first topic was free
            simp only [firstTopic?, hl, List.cons_append, List.map_cons, List.head?_cons,
              Option.some.injEq] at ht
            rw [← ht, hfree.free x (List.mem_cons_self ..)] at hsome
            cases hsome

/-- What a registry says of a topic after a request that failed. -/
theorem Fails.binding?_eq (h : r.Fails mains e r') (t : String) :
    (r'.binding? t = r.binding? t) ∨
      ∃ c b, r.require mains = .ok c ∧ b ∈ mains.flatMap (Binding.ofMainTopic c) ∧ b.topic = t ∧
        r.binding? t = none ∧ r'.binding? t = some b := by
  cases h with
  | ungoverned h => exact .inl rfl
  | @duplicate c done rest b hc hl hfree hb =>
      rw [binding?_bindEach hfree]
      cases hfind : done.find? (·.topic = t) with
      | none => exact .inl rfl
      | some x =>
          have hmem := List.mem_of_find?_eq_some hfind
          have ht : x.topic = t := by simpa using List.find?_some hfind
          refine .inr ⟨c, x, hc, ?_, ht, ht ▸ hfree.free x hmem, rfl⟩
          rw [hl]
          exact List.mem_append_left _ hmem

/-- What requests that fail leave behind in a registry, and in a container that goes on with it. -/
structure Remains (r : Registry) : Prop where
  fails_iff : ∀ mains e r', r.bindTopics mains = (.error e, r') ↔ r.Fails mains e r'
  /-- No binding is lost or changed, and one that is new is of a topic of the request. -/
  binding? : ∀ mains e r', r.Fails mains e r' → ∀ t, r'.binding? t = r.binding? t ∨
    ∃ c b, r.require mains = .ok c ∧ b ∈ mains.flatMap (Binding.ofMainTopic c) ∧ b.topic = t ∧
      r.binding? t = none ∧ r'.binding? t = some b
  /-- All is as before if no configuration governs the topics, or the first one is bound already,
  and only then. -/
  unchanged_iff : ∀ mains e r', r.Fails mains e r' → (r'.bindings = r.bindings ↔
    ∀ c, r.require mains = .ok c → ∃ t, firstTopic? c mains = some t ∧ (r.binding? t).isSome)
  /-- A container that refuses an endpoint has the endpoints that it had, and the registry as the
  request left it. -/
  refuses : ∀ (c : Container) (x : Endpoint) (e : ConfigurationError) (c' : Container),
    c.registry = r → c.addEndpoint x = (.error e, c') →
      c'.endpoints = c.endpoints ∧ (c'.registry = r ∨ r.Fails x.topics e c'.registry)

/-- **What is left** of requests that fail, in every registry. -/
theorem failures_run (calls : List Call) : (run calls).Remains where
  fails_iff _ _ _ := bindTopics_eq_error_iff
  binding? _ _ _ h t := h.binding?_eq t
  unchanged_iff _ _ _ h := h.bindings_eq_iff
  refuses c x e c' hr h := by
    rw [← hr]
    unfold Container.addEndpoint at h
    split at h
    · cases h
      exact ⟨rfl, .inl rfl⟩
    · split at h
      · rename_i err registry hbind
        cases h
        exact ⟨rfl, .inr (bindTopics_eq_error_iff.mp hbind)⟩
      · cases h

/-! ### A request that fails halfway -/

/-- A request for two main topics, of which the second is bound already, leaves the first one bound:
no request that follows is granted this topic. -/
theorem bindTopics_halfway :
    let r := run [.register .everywhere, .bind ["payments"]]
    let r' := (r.bindTopics ["orders", "payments"]).2
    (r.bindTopics ["orders", "payments"]).1 = .error (.duplicateTopic "payments") ∧
      r.boundTopics = NameSet.ofList ["payments", "payments-retry-0"] ∧
      r'.boundTopics =
        NameSet.ofList ["orders", "orders-retry-0", "payments", "payments-retry-0"] ∧
      r.locate "orders" = .error (.unconfiguredTopic "orders") ∧
      (r'.binding? "orders").isSome ∧
      (r.bindTopics ["orders"]).1 = .ok .everywhere ∧
      (r'.bindTopics ["orders"]).1 = .error (.duplicateTopic "orders") := by
  refine ⟨rfl, rfl, rfl, rfl, rfl, rfl, rfl⟩

end Registry

end Redelivery
