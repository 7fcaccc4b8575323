import Redelivery.Proofs.Fleet.Staff

/-!
# Fleet — starts that fail

An endpoint without topics is added where there is exactly one configuration, and a start fails when
it comes to it.  The endpoints are served one after the other, so that those before it have their
workers by then (`Container.served`, `Container.staff`).

**What is left** (`aborts_start`).  These workers are all that a start that fails leaves running,
and there are none just when the first endpoint is the one without topics.  Nobody is left who could
tell them to stop.  Each of them looks for a record, and takes one if there is one for its group.
-/

namespace Redelivery

namespace Worker

/-- The worker, left alone with an abandoned signal, takes a record if it finds one. -/
def TakesUp (w : Worker) : Prop :=
  ∀ (s : Surroundings) (b : Broker), s.shutdown = Shutdown.abandon {} → (w.membership b).Finds →
    ∃ r, ((w.step s b).worker.step s b).worker.phase = .opening r

theorem takesUp_of_idle {w : Worker} (hp : w.phase = .idle) (hc : w.consumer.paused = false)
    (hseen : w.seenSignal = 0) : w.TakesUp := by
  intro s b hs hfinds
  obtain ⟨r, m, hm⟩ := hfinds.take hc
  have hphase : (w.step s b).worker.phase =
      .polling (s.clock.elapsed + w.pollTimeout.toNat) none := by
    rw [step_idle hp, stepIdle, hs]
    rfl
  have hnewer : s.shutdown.isNewer (w.step s b).worker.seenSignal = false := by
    rw [step_idle hp, hs]
    change Shutdown.isNewer _ w.seenSignal = false
    rw [hseen]
    rfl
  have hm' : ((w.step s b).worker.membership b).take = (some r, m) := by
    rw [step_idle hp]
    exact hm
  rw [step_polling_of_take hphase hnewer hm']
  exact ⟨r, rfl⟩

end Worker

namespace Container

/-- The endpoints before the first that has no topics. -/
def served (c : Container) : List (Endpoint × Configuration) :=
  c.endpoints.takeWhile fun x => !x.1.topics.isEmpty

/-- The first endpoint that has no topics. -/
def unserved? (c : Container) : Option (Endpoint × Configuration) :=
  c.endpoints.find? fun x => x.1.topics.isEmpty

/-- The workers of a stage of an endpoint. -/
def staffOf (c : Container) (x : Endpoint × Configuration) (i : Fin x.2.chain.stages.length) :
    List Worker :=
  (List.range (c.workerCount x.1 x.2 (x.2.chain.stages.get i))).map
    (c.worker x.1 x.2 i (stageConsumer x.1 (x.2.chain.stages.get i)))

/-- The workers of an endpoint. -/
def staff (c : Container) (x : Endpoint × Configuration) : List Worker :=
  (consumedStages x.2).flatMap (c.staffOf x)

/-- The error of a start that comes to an endpoint without topics. -/
def refusal (x : Endpoint × Configuration) : ContainerError :=
  .broker (.subscribe s!"group {x.1.group} subscribed to no topics")

/-- What a start comes to, and what it leaves running if it fails. -/
structure Aborts (c : Container) (b : Broker) : Prop where
  /-- It fails just when an endpoint has no topics. -/
  fails_iff : ∀ err, (c.start b).outcome = .error err ↔ ∃ x, c.unserved? = some x ∧ err = refusal x
  /-- The endpoints before that one have all their workers. -/
  workers_eq : (c.start b).workers = c.served.flatMap c.staff
  /-- So nothing is left just when there is no endpoint before that one. -/
  workers_eq_nil_iff : (c.start b).workers = [] ↔
    ∀ x, c.endpoints.head? = some x → x.1.topics = []
  /-- Each of the workers goes on to take records. -/
  takesUp : ∀ w ∈ (c.start b).workers, w.TakesUp

variable {c : Container} {b : Broker} {x : Endpoint × Configuration}

/-! ### Endpoints -/

/-- The main stage of every chain. -/
theorem Built.main_of_mem (hc : c.Built) (hx : x ∈ c.endpoints) :
    x.2.chain.main.role.isConsumed = true ∧ x.2.chain.main.suffix = "" := by
  obtain ⟨spec, draw, hbuild⟩ := hc.planned hx
  rw [(ChainSpec.build_eq_ok hbuild).2.2.1]
  exact ⟨rfl, rfl⟩

/-- It is the first of those from which records are taken. -/
theorem Built.consumedStages_eq_cons (hc : c.Built) (hx : x ∈ c.endpoints) :
    ∃ l, consumedStages x.2 = ⟨0, Nat.succ_pos _⟩ :: l := by
  have hrange : List.finRange x.2.chain.stages.length =
      ⟨0, Nat.succ_pos _⟩ :: (List.finRange x.2.chain.later.length).map Fin.succ :=
    List.finRange_succ
  rw [consumedStages, hrange]
  exact ⟨_, List.filter_cons_of_pos (hc.main_of_mem hx).1⟩

theorem stageWorkers_of_nil (h : x.1.topics = []) (i : Fin x.2.chain.stages.length) :
    c.stageWorkers x.1 x.2 i = .error (.broker (.subscribe
      s!"group {x.1.group ++ (x.2.chain.stages.get i).suffix} subscribed to no topics")) := by
  simp only [stageWorkers]
  rw [h]
  rfl

theorem Built.staffing_of_nil (hc : c.Built) (hx : x ∈ c.endpoints) (h : x.1.topics = []) :
    ∃ l, c.staffing x = .error (refusal x) :: l := by
  obtain ⟨l, hl⟩ := hc.consumedStages_eq_cons hx
  refine ⟨l.map (c.stageWorkers x.1 x.2), ?_⟩
  rw [staffing, hl, List.map_cons, stageWorkers_of_nil h]
  have hsuffix : (x.2.chain.stages.get ⟨0, Nat.succ_pos _⟩).suffix = "" := (hc.main_of_mem hx).2
  rw [hsuffix, String.append_empty]
  rfl

theorem Located.staffing_of_ne (hc : c.Located) (hx : x ∈ c.endpoints) (h : x.1.topics ≠ []) :
    c.staffing x = (consumedStages x.2).map fun i => .ok (c.staffOf x i) := by
  refine List.map_congr_left fun i _ => ?_
  rcases hc.stageWorkers_eq hx i with ⟨hnil, -⟩ | ⟨-, hok⟩
  · exact absurd hnil h
  · exact hok

/-! ### What is collected -/

theorem collect_ok {α : Type} (f : α → List Worker) (l : List α)
    (rest : List (Except ContainerError (List Worker))) :
    collect (l.map (fun a => .ok (f a)) ++ rest) =
      (l.flatMap f ++ (collect rest).1, (collect rest).2) := by
  induction l with
  | nil => rfl
  | cons a l ih =>
      rw [List.map_cons, List.cons_append, collect, ih]
      simp

/-- **Endpoint after endpoint.** -/
theorem Built.collect_staffing (hc : c.Built) {l : List (Endpoint × Configuration)}
    (hl : ∀ x ∈ l, x ∈ c.endpoints) :
    collect (l.flatMap c.staffing) =
      ((l.takeWhile fun x => !x.1.topics.isEmpty).flatMap c.staff,
        match l.find? fun x => x.1.topics.isEmpty with
        | none => .ok ()
        | some x => .error (refusal x)) := by
  induction l with
  | nil => rfl
  | cons x l ih =>
      have hx := hl x (List.mem_cons_self ..)
      rw [List.flatMap_cons, List.takeWhile_cons, List.find?_cons]
      cases hempty : x.1.topics.isEmpty with
      | true =>
          obtain ⟨rest, hrest⟩ := hc.staffing_of_nil hx (List.isEmpty_iff.mp hempty)
          rw [hrest]
          rfl
      | false =>
          rw [hc.located.staffing_of_ne hx (List.isEmpty_eq_false_iff.mp hempty), collect_ok,
            ih fun y hy => hl y (List.mem_cons_of_mem _ hy)]
          rfl

theorem Built.staff_ne_nil (hc : c.Built) (hx : x ∈ c.endpoints) : c.staff x ≠ [] := by
  obtain ⟨l, hl⟩ := hc.consumedStages_eq_cons hx
  rw [staff, hl, List.flatMap_cons]
  intro h
  have hlen := congrArg List.length (List.append_eq_nil_iff.mp h).1
  simp only [staffOf, List.length_map, List.length_range, List.length_nil, workerCount] at hlen
  omega

/-! ### Workers that are left -/

theorem takesUp_of_mem_staff {w : Worker} (hw : w ∈ c.staff x) : w.TakesUp := by
  obtain ⟨i, -, hw⟩ := List.mem_flatMap.mp hw
  obtain ⟨n, -, rfl⟩ := List.mem_map.mp hw
  exact Worker.takesUp_of_idle rfl rfl rfl

/-- **Starts** of containers to which endpoints were added. -/
theorem aborts_start (hc : c.Built) (b : Broker) : c.Aborts b := by
  have hcollect := hc.collect_staffing (l := c.endpoints) fun _ hx => hx
  have hworkers : (c.start b).workers = c.served.flatMap c.staff := by
    rw [start_eq]
    exact congrArg Prod.fst hcollect
  constructor
  case fails_iff =>
    intro err
    have hout : (c.start b).outcome = match c.unserved? with
        | none => .ok ()
        | some x => .error (refusal x) := by
      rw [start_eq]
      exact congrArg Prod.snd hcollect
    rw [hout]
    cases c.unserved? with
    | none => simp
    | some x => simp [eq_comm]
  case workers_eq => exact hworkers
  case workers_eq_nil_iff =>
    rw [hworkers, served]
    cases hends : c.endpoints with
    | nil => simp
    | cons x l =>
        have hstaff := hc.staff_ne_nil (hends ▸ List.mem_cons_self (a := x) (l := l))
        rw [List.takeWhile_cons]
        cases hempty : x.1.topics.isEmpty with
        | true => simpa using hempty
        | false => simpa [hstaff] using hempty
  case takesUp =>
    intro w hw
    rw [hworkers] at hw
    obtain ⟨x, -, hw⟩ := List.mem_flatMap.mp hw
    exact takesUp_of_mem_staff hw

end Container

/-! ### A start that leaves a worker -/

/-- An endpoint without topics beside one whose topic has one retry. -/
def Container.halfServed : Container :=
  (addEndpoint .once { id := "none", group := "h", topics := [] }).2

theorem Container.built_halfServed : Container.halfServed.Built := .add built_once _

theorem Container.aborts_halfServed :
    Container.halfServed.Built ∧ Container.halfServed.Aborts .empty :=
  ⟨built_halfServed, aborts_start built_halfServed _⟩

/-- The endpoint without topics was added, and the start fails because of it.  The workers of the
other endpoint are left, and one of them hands a record to the user's code and publishes a copy of
it. -/
theorem Container.start_leavesWorkers :
      let orphaned := { Fleet.failing with shutdown := Shutdown.abandon {} }
    let left := Fleet.run halfServed
      (.start :: .publish 0 { topic := "orders" } :: List.replicate 6 (.work 0 orphaned))
    (addEndpoint .once { id := "none", group := "h", topics := [] }).1.isOk = true ∧
      (halfServed.start .empty).outcome =
        .error (.broker (.subscribe "group h subscribed to no topics")) ∧
      (halfServed.start .empty).workers.map Worker.name = ["orders-0", "orders-retry-0-0"] ∧
      left.copies = [⟨"g", ⟨"orders", 0, 0⟩, ⟨"orders-retry-0", 0, 0⟩⟩] := by
  decide +kernel

end Redelivery
