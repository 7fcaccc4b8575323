import Redelivery.Proofs.Fleet.Passage

/-!
# Fleet — no loss, no duplication

A record that was published is passed on from stage to stage by copies (`Fleet.Reaches`).  At any
time it stands in one place: it waits on a stage, or it lies in a dead-letter log, or a worker has
settled it (`Standing`, `Fleet.Stands`).

**Conservation** (`run_conserves`).  In every run of a container, every record that was published
to a main topic of an endpoint has exactly one standing.  A dispatch that ends well acknowledges
its record, which was treated in exactly one way; one that fails leaves no copy, and the group is
handed the record again.
-/

namespace Redelivery

/-- Where a record stands. -/
inductive Standing where
  /-- It waits on a stage. -/
  | live
  /-- It lies in the log of a dead-letter stage. -/
  | deadLettered
  /-- It was acknowledged for good. -/
  | settled
  deriving Repr, DecidableEq

theorem Membership.cursor_release (m : Membership) (topic : String) (partition : Int) (c : Cursor)
    (id : CursorId) : (m.release topic partition c).broker.cursor id =
      if id = m.cursorId topic partition then c else m.broker.cursor id := by
  simp only [release, Broker.cursor_announce, Broker.cursor_setCursor]

theorem Membership.cursor_rewind (m : Membership) (topic : String) (partition offset : Int) :
    (m.rewind topic partition offset).broker.cursor (m.cursorId topic partition) =
      { m.broker.cursor (m.cursorId topic partition) with
        next := max offset (m.broker.cursor (m.cursorId topic partition)).committed
        inFlight := false } :=
  (m.cursor_release topic partition _ _).trans (if_pos rfl)

namespace Fleet

/-- How the record at a place stands.  One that has a copy does not: the copy stands for it. -/
inductive Stands (c : Container) (f : Fleet) (y : Place) : Standing → Prop where
  | live {p : Post} (hp : p ∈ c.posts) (ht : p.topic = y.topic)
      (hcons : p.stage.role.isConsumed = true) (hack : ¬ f.broker.Acknowledged p.group y)
      (hcopy : y ∉ f.copies.map Copy.source) : Stands c f y .live
  | deadLettered {p : Post} (hp : p ∈ c.posts) (ht : p.topic = y.topic)
      (hd : p.stage.role.isDeadLetter = true) : Stands c f y .deadLettered
  | settled (h : y ∈ f.settled.map Settlement.place) : Stands c f y .settled

/-- What a fleet never loses or duplicates. -/
structure Conserves (c : Container) (f : Fleet) : Prop where
  /-- Each topic is that of one stage of one main topic. -/
  apart : (c.posts.map Post.topic).Nodup
  /-- Every entry of every log was published from outside or is a copy, once. -/
  nodup : (f.published ++ f.copies.map Copy.target).Nodup
  entry_iff : ∀ x, (f.broker.entryAt? x).isSome ↔ x ∈ f.published ++ f.copies.map Copy.target
  /-- The record that a worker deals with is the first that its group has not acknowledged. -/
  held : ∀ {i : Nat} {d : Desk} {r : Record}, f.desks[i]? = some d →
    d.worker.record? = some r → f.broker.Keeps r ∧
      (f.broker.cursor ⟨d.worker.consumer.group, r.topic, r.partition⟩).committed = r.offset
  /-- A dispatch that ends well has treated its record in one way, and acknowledges it. -/
  accepts : ∀ {i : Nat} {d : Desk} {r : Record} (s : Surroundings), f.desks[i]? = some d →
    d.worker.phase = .committing r →
    (∃! e, d.dispatch.Ends d.worker r e) ∧ f.broker.gained (f.work i s).broker = [] ∧
      ((f.work i s).broker.cursor
        ⟨d.worker.consumer.group, r.topic, r.partition⟩).committed = r.offset + 1
  /-- A dispatch that fails has published nothing, and its group may take the record again. -/
  returns : ∀ {i : Nat} {d : Desk} {r : Record} {why : DispatchError} (s : Surroundings),
    f.desks[i]? = some d → d.worker.phase = .returning r why →
    d.dispatch.copies = [] ∧ f.broker.gained (f.work i s).broker = [] ∧
      ((f.work i s).broker.cursor
        ⟨d.worker.consumer.group, r.topic, r.partition⟩).committed = r.offset ∧
      ∀ consumer : Consumer, consumer.group = d.worker.consumer.group → ∃ e,
        (⟨consumer, (f.work i s).broker⟩ : Membership).available? r.topic r.partition.toNat =
          some (r.offset, e) ∧ r = Broker.recordOf r.topic r.partition.toNat r.offset.toNat e
  /-- A record is settled at most once, and without a copy. -/
  settledOnce : (f.settled.map Settlement.place).Nodup
  settled : ∀ k ∈ f.settled, k.dispatch.copies = [] ∧ ∃! e, k.dispatch.Ends k.worker k.record e
  /-- Copies are where they were published. -/
  reached : ∀ x ∈ f.published, ∀ y, f.Reaches x y → (f.broker.entryAt? y).isSome
  /-- Every record published to a main topic stands in one place. -/
  standing : ∀ e configuration, (e, configuration) ∈ c.endpoints → ∀ x ∈ f.published,
    x.topic ∈ e.topics → ∃! s : Place × Standing, f.Reaches x s.1 ∧ f.Stands c s.1 s.2

variable {c : Container} {f : Fleet} {x y : Place}

/-! ### Standing -/

/-- A record with a standing has no copy. -/
theorem Ledger.not_copied_of_stands (hl : Ledger c f) (hc : c.Built) {s : Standing}
    (h : f.Stands c y s) : y ∉ f.copies.map Copy.source := by
  cases h with
  | live _ _ _ _ hcopy => exact hcopy
  | deadLettered hp ht hd =>
      intro hmem
      obtain ⟨a, ha, e⟩ := List.mem_map.mp hmem
      obtain ⟨q, route, stage, hlead⟩ := hl.leads a ha
      have hcons := hlead.isConsumed
      rw [hc.eq_of_topic hlead.mem hp (hlead.source.trans (ht.trans (e ▸ rfl)).symm)] at hcons
      rw [Role.isConsumed, hd] at hcons
      cases hcons
  | settled h =>
      obtain ⟨k, hk, rfl⟩ := List.mem_map.mp h
      exact (hl.settled k hk).1

/-- What is settled waits no longer on the stage of its post. -/
theorem Ledger.post_of_settled (hl : Ledger c f) (h : y ∈ f.settled.map Settlement.place) :
    ∃ p ∈ c.posts, p.topic = y.topic ∧ p.stage.role.isConsumed = true ∧
      f.broker.Acknowledged p.group y := by
  obtain ⟨k, hk, rfl⟩ := List.mem_map.mp h
  obtain ⟨-, -, -, p, hat, hack⟩ := hl.settled k hk
  exact ⟨p, hat.mem, hat.topic, hat.isConsumed, hack⟩

/-- A topic is not that of a stage whose records are taken and of a dead-letter stage. -/
theorem not_isDeadLetter (hc : c.Built) {p q : Post} (hp : p ∈ c.posts) (hq : q ∈ c.posts)
    (h : p.topic = q.topic) (hcons : p.stage.role.isConsumed = true) :
    ¬ q.stage.role.isDeadLetter = true := by
  intro hdead
  rw [hc.eq_of_topic hp hq h, Role.isConsumed, hdead] at hcons
  cases hcons

/-- The record at a place stands in one way. -/
theorem Ledger.stands_unique (hl : Ledger c f) (hc : c.Built) {s s' : Standing}
    (h : f.Stands c y s) (h' : f.Stands c y s') : s = s' := by
  have live : ∀ {p q : Post}, p ∈ c.posts → q ∈ c.posts → p.topic = y.topic →
      q.topic = y.topic → f.broker.Acknowledged q.group y → f.broker.Acknowledged p.group y :=
    fun hp hq ht ht' hack => hc.eq_of_topic hq hp (ht'.trans ht.symm) ▸ hack
  cases h with
  | live hp ht hcons hack _ =>
      cases h' with
      | live => rfl
      | deadLettered hp' ht' hd =>
          exact absurd hd (not_isDeadLetter hc hp hp' (ht.trans ht'.symm) hcons)
      | settled hmem =>
          obtain ⟨q, hq, hqt, -, hack'⟩ := hl.post_of_settled hmem
          exact absurd (live hp hq ht hqt hack') hack
  | deadLettered hp ht hd =>
      cases h' with
      | live hp' ht' hcons _ _ =>
          exact absurd hd (not_isDeadLetter hc hp' hp (ht'.trans ht.symm) hcons)
      | deadLettered => rfl
      | settled hmem =>
          obtain ⟨q, hq, hqt, hcons, -⟩ := hl.post_of_settled hmem
          exact absurd hd (not_isDeadLetter hc hq hp (hqt.trans ht.symm) hcons)
  | settled hmem =>
      obtain ⟨q, hq, hqt, hcons, hack'⟩ := hl.post_of_settled hmem
      cases h' with
      | live hp ht _ hack _ => exact absurd (live hp hq ht hqt hack') hack
      | deadLettered hp ht hd =>
          exact absurd hd (not_isDeadLetter hc hq hp (hqt.trans ht.symm) hcons)
      | settled => rfl

/-- A record of a post that has no copy stands. -/
theorem Ledger.exists_stands (hl : Ledger c f) {q : Post} (hq : q ∈ c.posts)
    (ht : q.topic = y.topic) (hy : y ∉ f.copies.map Copy.source) : ∃ s, f.Stands c y s := by
  -- what is acknowledged without a copy was settled
  by_cases hdead : q.stage.role.isDeadLetter = true
  · exact ⟨_, .deadLettered hq ht hdead⟩
  · have hcons : q.stage.role.isConsumed = true := by simpa [Role.isConsumed] using hdead
    by_cases hack : f.broker.Acknowledged q.group y
    · exact ⟨_, .settled ((hl.acknowledged q hq hcons y ht.symm hack).resolve_left hy)⟩
    · exact ⟨_, .live hq ht hcons hack hy⟩

/-- **One standing** of every record of a post. -/
theorem Ledger.standing (hl : Ledger c f) (hc : c.Built) {p : Post} (hp : p ∈ c.posts)
    (hx : p.topic = x.topic) :
    ∃! s : Place × Standing, f.Reaches x s.1 ∧ f.Stands c s.1 s.2 := by
  -- the tip stands, and what stands is a tip
  obtain ⟨y, hxy, hy⟩ := hl.exists_tip x
  obtain ⟨q, hq, ht⟩ := hl.post_of_reaches hp hx hxy
  obtain ⟨s, hs⟩ := hl.exists_stands hq ht hy
  refine ⟨(y, s), ⟨hxy, hs⟩, ?_⟩
  rintro ⟨y', s'⟩ ⟨hxy', hs'⟩
  obtain rfl := hl.tip_unique hxy hy hxy' (hl.not_copied_of_stands hc hs')
  rw [hl.stands_unique hc hs hs']

/-! ### Ends of dispatches -/

section

variable {i : Nat} {d : Desk} {r : Record}

theorem broker_work (hd : f.desks[i]? = some d) (s : Surroundings) :
    (f.work i s).broker = (d.worker.step s f.broker).broker := by
  rw [work_eq hd]

/-- What is done when a dispatch ends well. -/
theorem Sound.accepts (hs : f.Sound c) (hd : f.desks[i]? = some d)
    (hp : d.worker.phase = .committing r) (s : Surroundings) :
    f.broker.gained (f.work i s).broker = [] ∧
      ((f.work i s).broker.cursor
        ⟨d.worker.consumer.group, r.topic, r.partition⟩).committed = r.offset + 1 := by
  have hr : d.worker.record? = some r := by rw [Worker.record?, hp]; rfl
  rw [broker_work hd]
  cases hs.effect hd s with
  | none _ hne _ _ => exact absurd hp (hne r)
  | copy hp' _ _ _ _ =>
      rw [hp] at hp'
      cases hp'
  | acknowledge hp' hgain hack _ =>
      rw [hp] at hp'
      cases hp'
      obtain ⟨hk, hcur⟩ := hs.held hd hr
      refine ⟨hgain, ?_⟩
      rw [hack, if_pos rfl, hcur, ← hk.coordinates.2]
      simp only [Cursor.after]
      omega

/-- What is done when a dispatch fails. -/
theorem Sound.returns (hs : f.Sound c) (hd : f.desks[i]? = some d) {why : DispatchError}
    (hp : d.worker.phase = .returning r why) (s : Surroundings) :
    d.dispatch.copies = [] ∧ f.broker.gained (f.work i s).broker = [] ∧
      (f.work i s).broker.cursor ⟨d.worker.consumer.group, r.topic, r.partition⟩ =
        .after r.place.offset false ∧
      (f.work i s).broker.Keeps r := by
  have hr : d.worker.record? = some r := by rw [Worker.record?, hp]; rfl
  have hne : ∀ r, d.worker.phase ≠ .committing r := fun _ e => by rw [hp] at e; cases e
  have hdoes := d.worker.does_step s f.broker
  have hgain := Desk.gained_of_does hdoes fun _ _ _ e => by rw [hp] at e; cases e
  obtain ⟨hk, hcur⟩ := hs.held hd hr
  obtain ⟨history, hsession⟩ := hs.session
  have hbroker : (d.worker.step s f.broker).broker =
      ((d.worker.membership f.broker).rewind r.topic r.partition r.offset).broker := by
    rw [Worker.step_returning hp]
    cases why <;> rfl
  rw [broker_work hd]
  refine ⟨copies_of_fits (hs.orderly hd).fits hr hne, hgain, ?_,
    hk.mono (extends_of_does hsession.regular hdoes)⟩
  rw [hbroker]
  refine ((d.worker.membership f.broker).cursor_rewind r.topic r.partition r.offset).trans ?_
  change { f.broker.cursor ⟨d.worker.consumer.group, r.topic, r.partition⟩ with
    next := max r.offset (f.broker.cursor ⟨d.worker.consumer.group, r.topic, r.partition⟩).committed
    inFlight := false } = _
  rw [hcur, ← hk.coordinates.2]
  simp [Cursor.after]

/-- The next record of a group that holds none of the partition. -/
theorem available?_eq {b : Broker} {consumer : Consumer} (hk : b.Keeps r)
    (hcur : b.cursor ⟨consumer.group, r.topic, r.partition⟩ = .after r.place.offset false) :
    ∃ e, (⟨consumer, b⟩ : Membership).available? r.topic r.partition.toNat = some (r.offset, e) ∧
      r = Broker.recordOf r.topic r.partition.toNat r.offset.toNat e := by
  obtain ⟨p, o, e, he, hr⟩ := hk
  refine ⟨e, ?_, ?_⟩
  · have hcur' : b.cursor ((⟨consumer, b⟩ : Membership).cursorId r.topic (p : Int)) =
        .after o false := by
      rw [hr] at hcur
      rw [hr]
      exact hcur
    have hpart : r.partition.toNat = p := by rw [hr]; rfl
    have hoff : r.offset = o := by rw [hr]; rfl
    simp only [Membership.available?, hpart, hoff, hcur']
    simp [Cursor.after, he]
  · rw [hr]
    rfl

end

/-- **Conservation**, whatever the workers of a container do and in whatever order. -/
theorem run_conserves (hc : c.Built) (moves : List Move) : Conserves c (run c moves) where
  apart := hc.bound.nodup
  nodup := (ledger_run hc moves).nodup
  entry_iff := (ledger_run hc moves).entry_iff
  held hd hr := by
    obtain ⟨hk, hcur⟩ := (sound_run c moves).held hd hr
    exact ⟨hk, by rw [hcur, ← hk.coordinates.2]; rfl⟩
  accepts s hd hp := ⟨(sound_run c moves).ends hd hp, (sound_run c moves).accepts hd hp s⟩
  returns s hd hp := by
    obtain ⟨hcop, hgain, hcur, hk⟩ := (sound_run c moves).returns hd hp s
    refine ⟨hcop, hgain, by rw [hcur, ← hk.coordinates.2]; rfl, fun consumer hg => ?_⟩
    exact available?_eq hk (hg ▸ hcur)
  settledOnce := (ledger_run hc moves).settledOnce
  settled k hk := by
    obtain ⟨-, hcop, ⟨e, he⟩, -⟩ := (ledger_run hc moves).settled k hk
    exact ⟨hcop, e, he, fun e' h' => h'.unique he⟩
  reached x hx y hxy :=
    (ledger_run hc moves).entry_of_reaches
      (((ledger_run hc moves).entry_iff x).mpr (List.mem_append_left _ hx)) hxy
  standing e configuration he x _ ht := by
    obtain ⟨p, hp, hpt, -⟩ := hc.exists_post he ht
    exact (ledger_run hc moves).standing hc hp hpt

/-- A record that failed once stands in one place. -/
theorem run_conserves_once :
    Container.once.Built ∧ ⟨"orders", 0, 0⟩ ∈ (run .once (failures 1)).published ∧
    ∃! s : Place × Standing, (run .once (failures 1)).Reaches ⟨"orders", 0, 0⟩ s.1 ∧
      (run .once (failures 1)).Stands .once s.1 s.2 := by
  have hpub : ⟨"orders", 0, 0⟩ ∈ (run .once (failures 1)).published := by decide +kernel
  exact ⟨Container.built_once, hpub,
    (run_conserves Container.built_once (failures 1)).standing
      { id := "orders", group := "g", topics := ["orders"] } .once (List.mem_singleton_self _) _
      hpub (List.mem_singleton_self _)⟩

end Fleet

end Redelivery
