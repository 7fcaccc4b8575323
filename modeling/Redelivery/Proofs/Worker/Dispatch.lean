import Redelivery.Proofs.Broker.Cursors
import Redelivery.Proofs.Worker.Steps

/-!
# Worker — dispatches

A dispatch is what a worker does with a record between taking it and letting go of it.  A `Dispatch`
notes what can be seen of it: the route that was looked up, what user code was given, and the
places that the logs gained (`Dispatch.after`).

**Endings.**  A record that is about to be acknowledged was treated in exactly one of four ways
(`Dispatch.Ends`, `Ends.unique`), and for one that is about to be given back nothing was
published: a dispatch always goes with what its worker does next (`Desk.Orderly`), and every step
keeps it so (`Orderly.step`).
-/

namespace Redelivery

/-- What can be seen of a worker's dealing with a record. -/
structure Dispatch where
  route : Option Route := none
  /-- What user code was given. -/
  events : List WorkerEvent := []
  /-- The places that logs gained. -/
  copies : List Place := []

namespace Dispatch

/-- The dispatch after the next step of its worker.  Taking a record begins another one. -/
def after (d : Dispatch) (w : Worker) (s : Surroundings) (b : Broker) : Dispatch :=
  let t := w.step s b
  if w.record?.isSome then
    { route := d.route.or (w.routeOf? s), events := d.events ++ t.events
      copies := d.copies ++ b.gained t.broker }
  else {}

/-- How a record was treated that is acknowledged. -/
inductive Ending where
  /-- The user's code accepted it. -/
  | accepted
  /-- A copy was published, and is at a place. -/
  | copied (y : Place)
  /-- The handler was given it as a dead letter. -/
  | buried
  /-- It was discarded, as the chain has no dead-letter stage. -/
  | discarded
  deriving Repr, DecidableEq

/-- How the dispatch of a record ends that is acknowledged. -/
inductive Ends (w : Worker) (r : Record) (d : Dispatch) : Ending → Prop where
  | accepted {time : Instant} (hr : d.route = none) (he : d.events = [.handled r time none])
      (hc : d.copies = []) : Ends w r d .accepted
  | copied {route : Route} {stage : Stage} {y : Place} (hr : d.route = some route)
      (hs : route.stage? = some stage) (hc : d.copies = [y])
      (ht : y.topic = stage.topicFor (w.mainTopic r))
      (hp : ∀ q, stage.preservedPartition r.partition = some q → q = y.partition) :
      Ends w r d (.copied y)
  | buried {stage : Stage} {reason : TerminalReason} {handler : DeadLetterHandler}
      {letter : DeadLetter} {answer : Except DeadLetterError Unit}
      (hr : d.route = some (.deadLetter stage reason))
      (hh : w.configuration.handler = some handler)
      (he : .buried handler letter answer ∈ d.events) (hl : letter.record = r)
      (hc : d.copies = []) : Ends w r d .buried
  | discarded {reason : TerminalReason} (hr : d.route = some (.discard reason))
      (hd : w.configuration.chain.deadLetter? = none) (hc : d.copies = []) :
      Ends w r d .discarded

/-- A dispatch ends in one way only. -/
theorem Ends.unique {w : Worker} {r : Record} {d : Dispatch} {e e' : Ending} (h : d.Ends w r e)
    (h' : d.Ends w r e') : e = e' := by
  cases h <;> cases h' <;> simp_all

theorem Ends.congr {w w' : Worker} {r : Record} {d : Dispatch} {e : Ending}
    (hc : w'.configuration = w.configuration) (hm : w'.mainTopic r = w.mainTopic r)
    (h : d.Ends w r e) : d.Ends w' r e := by
  cases h with
  | accepted hr he hl => exact .accepted hr he hl
  | copied hr hs hl ht hp => exact .copied hr hs hl (hm ▸ ht) hp
  | buried hr hh he hw hl => exact .buried hr (hc ▸ hh) he hw hl
  | discarded hr hd hl => exact .discarded hr (hc ▸ hd) hl

end Dispatch

/-- A worker and its dispatch. -/
structure Desk where
  worker : Worker
  dispatch : Dispatch := {}

namespace Desk

/-- The dispatch goes with what the worker does next. -/
inductive Fits (w : Worker) (d : Dispatch) : Phase → Prop where
  | free {p : Phase} (h : p.record? = none) : Fits w d p
  | early {r : Record} {p : Phase} (h : p.Early r) (hd : d = {}) : Fits w d p
  | publishing {r : Record} {copy : Outgoing} {more : Nat} {route : Route} {stage : Stage}
      (hr : d.route = some route) (hs : route.stage? = some stage) (hc : d.copies = [])
      (ht : copy.topic = stage.topicFor (w.mainTopic r))
      (hp : copy.partition = stage.preservedPartition r.partition) :
      Fits w d (.publishing r copy more)
  | committing {r : Record} {e : Dispatch.Ending} (h : d.Ends w r e) : Fits w d (.committing r)
  | returning {r : Record} {why : DispatchError} (hc : d.copies = []) : Fits w d (.returning r why)

/-- A desk as it is between any two steps. -/
structure Orderly (d : Desk) : Prop where
  fits : Fits d.worker d.dispatch d.worker.phase
  /-- A route that was looked up leads away from the worker's stage. -/
  offers : ∀ route, d.dispatch.route = some route →
    d.worker.configuration.resolver.Offers d.worker.stage route
  /-- The record is one of the worker's topics. -/
  topic : ∀ r, d.worker.record? = some r → r.topic ∈ d.worker.consumer.topics

/-- The desk after the next step of its worker. -/
def step (d : Desk) (s : Surroundings) (b : Broker) : Desk :=
  ⟨(d.worker.step s b).worker, d.dispatch.after d.worker s b⟩

/-! ### What steps leave alone -/

section

variable {w : Worker} {s : Surroundings} {b : Broker} {t : WorkerStep}

/-- Only publishing changes a topic. -/
theorem topics_of_does (h : w.Does s b t) (hp : ∀ r copy more, w.phase ≠ .publishing r copy more) :
    t.broker.topics = b.topics := by
  cases h with
  | rest _ _ hq _ | prepare _ _ hq _ _ | interrupt _ _ hq _ _ | decide _ _ hq => exact hq.topics
  | take _ hm _ _ =>
      obtain ⟨_, _, -, -, -, -, hb, -⟩ := Membership.take_eq_some hm
      exact (congrArg Broker.topics hb).trans rfl
  | publish h _ _ _ _ => exact absurd h (hp _ _ _)
  | commit _ _ hm _ | giveBack _ _ hm _ => exact congrArg (·.broker.topics) hm
  | leave _ _ hm _ =>
      exact (congrArg (·.broker.topics) hm).trans (Session.topics_giveBack ..)

theorem gained_of_does (h : w.Does s b t) (hp : ∀ r copy more, w.phase ≠ .publishing r copy more) :
    b.gained t.broker = [] :=
  Broker.gained_of_log_eq (Broker.log_congr (topics_of_does h hp))

/-- No step changes what the worker's consumer is a member of. -/
theorem group_of_does (h : w.Does s b t) :
    t.worker.consumer.group = w.consumer.group ∧ t.worker.consumer.topics = w.consumer.topics := by
  cases h with
  | rest _ _ hq _ | prepare _ _ hq _ _ | interrupt _ _ hq _ _ | decide _ _ hq =>
      exact ⟨hq.alike.group, hq.alike.topics⟩
  | take _ hm _ _ =>
      obtain ⟨_, _, -, -, -, -, -, hg, ht, -⟩ := Membership.take_eq_some hm
      exact ⟨hg, ht⟩
  | publish _ _ hc _ _ => exact hc ▸ ⟨rfl, rfl⟩
  | commit _ _ hm _ | giveBack _ _ hm _ | leave _ _ hm _ =>
      exact ⟨congrArg (·.consumer.group) hm, congrArg (·.consumer.topics) hm⟩

/-- What a record held by the worker is after a step: the same, or another one taken from its
topics. -/
theorem record_of_does (h : w.Does s b t) {r : Record} (hr : t.worker.record? = some r) :
    w.record? = some r ∨ w.record? = none ∧ r.topic ∈ w.consumer.topics := by
  cases h with
  | rest _ hp _ _ | commit _ hp _ _ | giveBack _ hp _ _ | leave _ hp _ _ =>
      rw [hp] at hr
      cases hr
  | take h hm hp _ =>
      obtain ⟨_, _, -, -, -, ht, -⟩ := Membership.take_eq_some hm
      rw [Worker.record?, hp] at hr
      cases hr
      exact .inr ⟨h, ht⟩
  | prepare h hp _ _ _ => exact .inl (h.record?.trans (hp.record?.symm.trans hr))
  | interrupt h hp _ _ _ =>
      rw [Worker.record?, hp] at hr
      exact .inl (h.record?.trans hr)
  | decide h hd _ => exact .inl (h.record?.trans (hd.record?.symm.trans hr))
  | publish h _ _ _ hp =>
      refine .inl ?_
      rw [Worker.record?, h]
      rcases hp with ⟨-, hp⟩ | ⟨_, -, ⟨_, hp⟩ | ⟨_, hp⟩⟩ <;>
      · rw [Worker.record?, hp] at hr
        exact hr

end

/-! ### One step -/

section

variable {d : Desk} {s : Surroundings} {b : Broker}

theorem Fits.congr {w w' : Worker} {d : Dispatch} {p : Phase}
    (hc : w'.configuration = w.configuration) (hm : ∀ r, w'.mainTopic r = w.mainTopic r)
    (h : Fits w d p) : Fits w' d p := by
  cases h with
  | free h => exact .free h
  | early h hd => exact .early h hd
  | publishing hr hs hl ht hp => exact .publishing hr hs hl ((hm _).symm ▸ ht) hp
  | committing h => exact .committing (h.congr hc (hm _))
  | returning hl => exact .returning hl

theorem offers_routeOf? (w : Worker) (s : Surroundings) {route : Route}
    (h : w.routeOf? s = some route) : w.configuration.resolver.Offers w.stage route := by
  unfold Worker.routeOf? at h
  split at h
  · split at h
    · cases h
      exact w.configuration.resolver.offers_deadLetterFor ..
    · cases h
  · obtain ⟨f, -, rfl⟩ := Option.map_eq_some_iff.mp h
    exact w.configuration.resolver.offers_next ..
  · cases h

/-- What is decided goes with what can be seen. -/
theorem fits_decides {w : Worker} {r : Record} {p : Phase} {events : List WorkerEvent}
    (h : w.Decides s r p events) : Fits w ⟨w.routeOf? s, events, []⟩ p := by
  cases h with
  | accept hr => exact .committing (.accepted hr rfl rfl)
  | copy hr hs => exact .publishing hr hs rfl rfl rfl
  | bury hr hh he hl => exact .committing (.buried hr hh he hl rfl)
  | discard hr =>
      refine .committing (.discarded hr ?_ rfl)
      -- only a chain without dead letters offers to discard
      cases offers_routeOf? w s hr with
      | discard h => exact h

theorem after_of_record (d : Dispatch) {w : Worker} (s : Surroundings) (b : Broker) {r : Record}
    (h : w.record? = some r) : d.after w s b =
      ⟨d.route.or (w.routeOf? s), d.events ++ (w.step s b).events,
        d.copies ++ b.gained (w.step s b).broker⟩ := by
  simp only [Dispatch.after, h, Option.isSome_some, if_true]

theorem after_of_no_record (d : Dispatch) {w : Worker} (s : Surroundings) (b : Broker)
    (h : w.record? = none) : d.after w s b = {} := by
  simp [Dispatch.after, h]

theorem Fits.eq_empty {w : Worker} {d : Dispatch} {p : Phase} {r : Record} (h : Fits w d p)
    (hp : p.Early r) : d = {} := by
  cases h with
  | free h => rw [hp.record?] at h; cases h
  | early _ hd => exact hd
  | publishing | committing _ | returning _ => cases hp

/-- Before anything is decided nothing can be seen. -/
theorem after_of_early {w : Worker} {d : Dispatch} {r : Record} (h : Fits w d w.phase)
    (hp : w.phase.Early r) : d.after w s b = ⟨w.routeOf? s, (w.step s b).events, []⟩ := by
  have hnot : ∀ r copy more, w.phase ≠ .publishing r copy more := by
    intro r copy more e
    rw [e] at hp
    cases hp
  rw [after_of_record d s b (hp.record?), h.eq_empty hp, gained_of_does (w.does_step s b) hnot]
  rfl

/-- **A try to publish**: it fails and no log grows, or the copy is at the end of one log, in the
partition that was asked for if one was. -/
theorem publishing_cases {w : Worker} {r : Record} {copy : Outgoing} {more : Nat}
    (hb : b.Regular) (h : w.phase = .publishing r copy more) (s : Surroundings) :
    (b.gained (w.step s b).broker = [] ∧
      ((∃ more, (w.step s b).worker.phase = .publishing r copy more) ∨
        ∃ why, (w.step s b).worker.phase = .returning r why)) ∨
    ∃ y : Place, b.gained (w.step s b).broker = [y] ∧ y.topic = copy.topic ∧
      (∀ q, copy.partition = some q → q = y.partition) ∧
      (w.step s b).worker.phase = .committing r := by
  obtain ⟨hbroker, hres⟩ := (w.does_step s b).of_publishing h
  rw [hbroker]
  rcases Broker.publish_cases hb s.clock.now copy with ⟨e, he, hlog⟩ | ⟨p, hok, hq, hlog⟩
  · rcases hres with ⟨hok, -⟩ | ⟨_, -, hphase⟩
    · rw [he] at hok
      cases hok
    · exact .inl ⟨Broker.gained_of_log_eq hlog, hphase⟩
  · rcases hres with ⟨-, hphase⟩ | ⟨e, he, -⟩
    · exact .inr ⟨_, Broker.gained_append (hb.publish s.clock.now copy) hlog, rfl, hq, hphase⟩
    · rw [he] at hok
      cases hok

theorem fits_publishing {w : Worker} {d : Dispatch} {r : Record} {copy : Outgoing} {more : Nat}
    (hb : b.Regular) (h : w.phase = .publishing r copy more) (hfit : Fits w d w.phase) :
    Fits w (d.after w s b) (w.step s b).worker.phase := by
  rw [h] at hfit
  cases hfit with
  | free h => cases h
  | early h _ => cases h
  | @publishing _ _ _ route stage hr hs hc ht hp =>
      have hrec : w.record? = some r := by rw [Worker.record?, h]; rfl
      rw [after_of_record d s b hrec, hr, hc, List.nil_append, Option.some_or]
      rcases publishing_cases hb h s with ⟨hgain, hphase⟩ | ⟨y, hgain, hy, hq, hphase⟩
      · -- it failed: another try, or the record is given back
        rw [hgain]
        rcases hphase with ⟨more, hphase⟩ | ⟨why, hphase⟩
        · rw [hphase]
          exact .publishing rfl hs rfl ht hp
        · rw [hphase]
          exact .returning rfl
      · rw [hgain, hphase]
        exact .committing (.copied rfl hs rfl (hy.trans ht) fun q hq' => hq q (hp.trans hq'))

/-- The dispatch goes with what the worker does after a step. -/
theorem Fits.step {w : Worker} {d : Dispatch} (h : Fits w d w.phase) (hb : b.Regular)
    (s : Surroundings) : Fits w (d.after w s b) (w.step s b).worker.phase := by
  have hdoes := w.does_step s b
  cases hdoes with
  | rest _ hp _ _ | commit _ hp _ _ | giveBack _ hp _ _ | leave _ hp _ _ => exact .free hp
  | take h' _ hp _ =>
      rw [hp, after_of_no_record d s b h']
      exact .early .opening rfl
  | prepare h' hp _ he hr =>
      rw [after_of_early h h', he, hr]
      exact .early hp rfl
  | interrupt h' hp _ _ _ =>
      rw [after_of_early h h', hp]
      exact .returning rfl
  | decide h' hd _ =>
      rw [after_of_early h h']
      exact fits_decides hd
  | publish h' _ _ _ _ => exact fits_publishing hb h' h

/-- **Every step of a worker** leaves its desk in order. -/
theorem Orderly.step (h : d.Orderly) (hb : b.Regular) (s : Surroundings) :
    (d.step s b).Orderly := by
  have hdoes := d.worker.does_step s b
  obtain ⟨consumer, phase, seenSignal, redelivery, hw⟩ := d.worker.step_worker s b
  change (d.step s b).worker = _ at hw
  constructor
  · refine Fits.congr (w := d.worker) (by rw [hw]) (fun r => by rw [hw]; rfl) ?_
    exact h.fits.step hb s
  · intro route hr
    have : d.worker.configuration.resolver.Offers d.worker.stage route := by
      change (d.dispatch.after d.worker s b).route = some route at hr
      unfold Dispatch.after at hr
      dsimp only at hr
      split at hr
      · rcases Option.or_eq_some_iff.mp hr with hr | ⟨-, hr⟩
        · exact h.offers route hr
        · exact offers_routeOf? d.worker s hr
      · cases hr
    rw [hw]
    exact this
  · intro r hr
    rw [show (d.step s b).worker.consumer.topics = _ from (group_of_does hdoes).2]
    rcases record_of_does hdoes hr with hr | ⟨-, ht⟩
    · exact h.topic r hr
    · exact ht

end

end Desk

end Redelivery
