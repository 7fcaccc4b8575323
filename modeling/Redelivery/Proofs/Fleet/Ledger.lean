import Redelivery.Proofs.Fleet.Run

/-!
# Fleet — the ledger

What the notes of a fleet say about its logs and cursors (`Fleet.Ledger`).  Every entry was
published from outside or is a copy, and is noted once.  A record has at most one copy, which is on
a stage that the chain offers (`Copy.Leads`); it is acknowledged by the group that takes it, or a
worker is about to acknowledge it.  A record that is acknowledged has a copy or is settled, and
never both.

A step of a worker has one of three effects (`Effect`, `Sound.effect`): none, a copy of the record
that it holds appears in a log, or this record is acknowledged.  Each of them keeps the ledger
(`Ledger.still`, `Ledger.copy`, `Ledger.acknowledge`), and so does every run (`ledger_run`).
-/

namespace Redelivery

/-- The group has acknowledged the record at a place. -/
def Broker.Acknowledged (b : Broker) (group : String) (x : Place) : Prop :=
  (x.offset : Int) < (b.cursor ⟨group, x.topic, x.partition⟩).committed

/-- The place of a record of a broker. -/
theorem Broker.Keeps.coordinates {b : Broker} {r : Record} (h : b.Keeps r) :
    (r.place.partition : Int) = r.partition ∧ (r.place.offset : Int) = r.offset := by
  obtain ⟨p, o, e, -, hr⟩ := h
  rw [hr]
  exact ⟨rfl, rfl⟩

/-- What a longer log holds is what it held before, or gained. -/
theorem Broker.isSome_entryAt?_iff {b b' : Broker} (h : b.Extends b') (x : Place) :
    (b'.entryAt? x).isSome ↔ (b.entryAt? x).isSome ∨ x ∈ b.gained b' := by
  rw [Broker.mem_gained]
  cases hx : b.entryAt? x with
  | none => simp
  | some e => simp [Broker.entryAt?, h.getElem? hx]

theorem Membership.committed_commit (m : Membership) (topic : String) (partition offset : Int)
    (id : CursorId) : ((m.commit topic partition offset).broker.cursor id).committed =
      if id = m.cursorId topic partition then max (m.broker.cursor id).committed (offset + 1)
      else (m.broker.cursor id).committed := by
  simp only [commit, release, Broker.cursor_announce, Broker.cursor_setCursor]
  by_cases h : id = m.cursorId topic partition
  · rw [if_pos h, if_pos h, h]
  · rw [if_neg h, if_neg h]

theorem Broker.Extends.isSome_entryAt? {b b' : Broker} (h : b.Extends b') {x : Place}
    (hx : (b.entryAt? x).isSome) : (b'.entryAt? x).isSome :=
  (Broker.isSome_entryAt?_iff h x).mpr (.inl hx)

/-- The order of two copies: of two from one partition the first is of the earlier record, of two in
one log the first is in front, and nothing is copied before it was published. -/
structure Copy.Precedes (a b : Copy) : Prop where
  source : a.group = b.group → a.source.topic = b.source.topic →
    a.source.partition = b.source.partition → a.source.offset < b.source.offset
  target : a.target.topic = b.target.topic → a.target.partition = b.target.partition →
    a.target.offset < b.target.offset
  fresh : b.target ≠ a.source

/-- The copy is of a record of a post, and on the stage of a route that the chain offers there. -/
structure Copy.Leads (c : Container) (a : Copy) (p : Post) (route : Route) (stage : Stage) :
    Prop where
  mem : p ∈ c.posts
  source : p.topic = a.source.topic
  group : p.group = a.group
  isConsumed : p.stage.role.isConsumed = true
  offers : p.configuration.resolver.Offers p.stage route
  leadsTo : route.stage? = some stage
  target : a.target.topic = stage.topicFor p.main
  partition : ∀ q, stage.preservedPartition a.source.partition = some q → q = a.target.partition

/-- The copy is on a post. -/
theorem Copy.Leads.mem_target {c : Container} {a : Copy} {p : Post} {route : Route}
    {stage : Stage} (h : a.Leads c p route stage) : { p with stage } ∈ c.posts := by
  obtain ⟨he, hm, -⟩ := Container.mem_posts.mp h.mem
  exact Container.mem_posts.mpr ⟨he, hm, h.offers.mem h.leadsTo⟩

/-- The worker has published the copy and acknowledges its source next. -/
def Desk.Finishes (d : Desk) (a : Copy) : Prop :=
  ∃ r, d.worker.phase = .committing r ∧ d.worker.consumer.group = a.group ∧ r.place = a.source ∧
    d.dispatch.copies = [a.target]

namespace Fleet

/-- What the notes say about logs and cursors. -/
structure Ledger (c : Container) (f : Fleet) : Prop where
  /-- Every entry is noted once. -/
  nodup : (f.published ++ f.copies.map Copy.target).Nodup
  entry_iff : ∀ x, (f.broker.entryAt? x).isSome ↔ x ∈ f.published ++ f.copies.map Copy.target
  /-- A record has at most one copy. -/
  once : (f.copies.map Copy.source).Nodup
  leads : ∀ a ∈ f.copies, ∃ p route stage, a.Leads c p route stage
  kept : ∀ a ∈ f.copies, (f.broker.entryAt? a.source).isSome ∧ a.target ≠ a.source
  ordered : f.copies.Pairwise Copy.Precedes
  /-- A record that has a copy is acknowledged, or is about to be. -/
  copied : ∀ a ∈ f.copies, f.broker.Acknowledged a.group a.source ∨
    ∃ (i : Nat) (d : Desk), f.desks[i]? = some d ∧ d.Finishes a
  /-- What a dispatch noted is noted. -/
  noted : ∀ {i : Nat} {d : Desk} {r : Record} {y : Place}, f.desks[i]? = some d →
    d.worker.record? = some r → y ∈ d.dispatch.copies →
    ⟨d.worker.consumer.group, r.place, y⟩ ∈ f.copies
  /-- A record is settled at most once. -/
  settledOnce : (f.settled.map Settlement.place).Nodup
  settled : ∀ k ∈ f.settled, k.place ∉ f.copies.map Copy.source ∧ k.dispatch.copies = [] ∧
    (∃ e, k.dispatch.Ends k.worker k.record e) ∧
    ∃ p, k.worker.At c k.record p ∧ f.broker.Acknowledged p.group k.place
  /-- A record that is acknowledged has a copy or is settled. -/
  acknowledged : ∀ p ∈ c.posts, p.stage.role.isConsumed = true → ∀ x, x.topic = p.topic →
    f.broker.Acknowledged p.group x →
    x ∈ f.copies.map Copy.source ∨ x ∈ f.settled.map Settlement.place

theorem ledger_empty (c : Container) : Ledger c {} where
  nodup := by simp
  entry_iff x := by
    simp [Broker.entryAt?, Broker.log, Broker.partitions, Broker.empty, Table.get?_empty]
  once := by simp
  leads := by simp
  kept := by simp
  ordered := .nil
  copied := by simp
  noted := by simp
  settledOnce := by simp
  settled := by simp
  acknowledged p _ _ x _ h := by
    simp only [Broker.Acknowledged, Broker.cursor, Broker.empty, Table.get?_empty] at h
    simp at h
    omega

/-! ### The record of a worker -/

variable {c : Container} {f : Fleet} {i : Nat} {d : Desk} {r : Record}

/-- A worker's record is kept by the broker, and its group has acknowledged all before it. -/
theorem Sound.held (hs : f.Sound c) (hd : f.desks[i]? = some d) (hr : d.worker.record? = some r) :
    f.broker.Keeps r ∧
      f.broker.cursor ⟨d.worker.consumer.group, r.topic, r.partition⟩ =
        .after r.place.offset true := by
  obtain ⟨history, h⟩ := hs.session
  have hm : (f.session history).members[i]? = some d.worker.member := by simp [Fleet.session, hd]
  have hmem : r ∈ d.worker.member.records := by simp [Worker.member, hr]
  have hk : f.broker.Keeps r := (h.held ⟨_, hm, hmem, rfl⟩).1
  obtain ⟨k, hcur, ho⟩ := h.cursor_of_mem hm hmem
  rw [← hk.coordinates.2, Int.ofNat_inj] at ho
  exact ⟨hk, ho ▸ hcur⟩

theorem Sound.not_acknowledged (hs : f.Sound c) (hd : f.desks[i]? = some d)
    (hr : d.worker.record? = some r) :
    ¬ f.broker.Acknowledged d.worker.consumer.group r.place := by
  obtain ⟨hk, hcur⟩ := hs.held hd hr
  have hid : (⟨d.worker.consumer.group, r.place.topic, r.place.partition⟩ : CursorId) =
      ⟨d.worker.consumer.group, r.topic, r.partition⟩ := by
    rw [hk.coordinates.1]
    rfl
  rw [Broker.Acknowledged, hid, hcur]
  simp [Cursor.after]

/-- Two workers of a group do not deal with records of the same partition. -/
theorem Sound.alone (hs : f.Sound c) (hd : f.desks[i]? = some d) (hr : d.worker.record? = some r)
    {j : Nat} {d' : Desk} {r' : Record} (hd' : f.desks[j]? = some d')
    (hr' : d'.worker.record? = some r') (ht : r'.place.topic = r.place.topic)
    (hp : r'.place.partition = r.place.partition)
    (hg : d'.worker.consumer.group = d.worker.consumer.group) : j = i := by
  obtain ⟨history, h⟩ := hs.session
  have hm : (f.session history).members[i]? = some d.worker.member := by simp [Fleet.session, hd]
  have hm' : (f.session history).members[j]? = some d'.worker.member := by
    simp [Fleet.session, hd']
  have hpart : r'.partition = r.partition := by
    rw [← (hs.held hd' hr').1.coordinates.1, hp, (hs.held hd hr).1.coordinates.1]
  have hid : d.worker.member.cursorId r = d'.worker.member.cursorId r' := by
    have htopic : r'.topic = r.topic := ht
    simp only [Member.cursorId, Worker.member, hg, htopic, hpart]
  have hrec : r ∈ d.worker.member.records := by simp [Worker.member, hr]
  have hrec' : r' ∈ d'.worker.member.records := by simp [Worker.member, hr']
  exact h.alone ⟨_, hm', hrec', rfl⟩ ⟨_, hm, hrec, hid⟩

theorem Sound.at (hs : f.Sound c) (hd : f.desks[i]? = some d) (hr : d.worker.record? = some r) :
    ∃ p, d.worker.At c r p :=
  (hs.serves hd).at ((hs.orderly hd).topic r hr)

/-- A record that is acknowledged was treated in one way. -/
theorem Sound.ends (hs : f.Sound c) (hd : f.desks[i]? = some d)
    (hp : d.worker.phase = .committing r) : ∃! e, d.dispatch.Ends d.worker r e := by
  have hfits := (hs.orderly hd).fits
  rw [hp] at hfits
  cases hfits with
  | free h => cases h
  | early h _ => cases h
  | @committing _ e h => exact ⟨e, h, fun e' h' => h'.unique h⟩

/-! ### The effect of a step -/

/-- What the step of a worker, whose desk `d` becomes `d'`, does to logs and acknowledgements. -/
inductive Effect (b b' : Broker) (d d' : Desk) : Prop where
  | none (hgain : b.gained b' = []) (hp : ∀ r, d.worker.phase ≠ .committing r)
      (hack : ∀ id, (b'.cursor id).committed = (b.cursor id).committed)
      (hc : ∀ r, d'.worker.record? = some r → d'.dispatch.copies = [])
  | copy {r : Record} {outgoing : Outgoing} {more : Nat} {y : Place}
      (hp : d.worker.phase = .publishing r outgoing more) (hgain : b.gained b' = [y])
      (hack : ∀ id, (b'.cursor id).committed = (b.cursor id).committed)
      (hp' : d'.worker.phase = .committing r) (hc : d'.dispatch.copies = [y])
  | acknowledge {r : Record} (hp : d.worker.phase = .committing r) (hgain : b.gained b' = [])
      (hack : ∀ id, (b'.cursor id).committed =
        if id = ⟨d.worker.consumer.group, r.topic, r.partition⟩ then
          max (b.cursor id).committed (r.offset + 1) else (b.cursor id).committed)
      (hp' : d'.worker.record? = none)

/-- Only acknowledging a record changes what is acknowledged. -/
theorem committed_of_does {w : Worker} {s : Surroundings} {b : Broker} {t : WorkerStep}
    (h : w.Does s b t) (hp : ∀ r, w.phase ≠ .committing r) (id : CursorId) :
    (t.broker.cursor id).committed = (b.cursor id).committed := by
  cases h with
  | rest _ _ hq _ | prepare _ _ hq _ _ | interrupt _ _ hq _ _ | decide _ _ hq =>
      exact congrArg Cursor.committed (Broker.cursor_congr hq.cursors id)
  | take _ hm _ _ =>
      obtain ⟨_, _, -, -, -, -, hb, -⟩ := Membership.take_eq_some hm
      rw [show t.broker = _ from hb, Broker.cursor_setCursor]
      split
      · rename_i e
        rw [e]
        rfl
      · rfl
  | publish _ hb _ _ _ =>
      rw [hb]
      exact congrArg Cursor.committed (Broker.cursor_congr (Broker.cursors_publish ..) id)
  | commit h _ _ _ => exact absurd h (hp _)
  | giveBack _ _ hm _ =>
      rw [show t.broker = _ from congrArg Membership.broker hm]
      simp only [Membership.rewind, Membership.release, Broker.cursor_announce,
        Broker.cursor_setCursor]
      split
      · rename_i e
        rw [e]
        rfl
      · rfl
  | leave _ _ hm _ =>
      rw [show t.broker = _ from congrArg Membership.broker hm]
      simp only [Membership.close, Broker.cursor_announce, Session.cursor_giveBack]
      split
      · rfl
      · rfl

/-- A dispatch whose record is not about to be acknowledged has published nothing. -/
theorem copies_of_fits {w : Worker} {d : Dispatch} {p : Phase} (h : Desk.Fits w d p) {r : Record}
    (hr : p.record? = some r) (hp : ∀ r, p ≠ .committing r) : d.copies = [] := by
  cases h with
  | free h =>
      rw [h] at hr
      cases hr
  | early _ hd => rw [hd]
  | publishing _ _ hc _ _ => exact hc
  | committing _ => exact absurd rfl (hp _)
  | returning hc => exact hc

/-- **The effect of a step.** -/
theorem Sound.effect (hs : f.Sound c) (hd : f.desks[i]? = some d) (s : Surroundings) :
    Effect f.broker (d.worker.step s f.broker).broker d (d.step s f.broker) := by
  obtain ⟨history, hsession⟩ := hs.session
  have hb : f.broker.Regular := hsession.regular
  have hdoes := d.worker.does_step s f.broker
  have hfits := (hs.orderly hd).fits
  -- before a record is acknowledged, its dispatch has no copy but what this step publishes
  have hcopies : ∀ r, d.worker.record? = some r → (∀ r, d.worker.phase ≠ .committing r) →
      (d.step s f.broker).dispatch.copies =
        f.broker.gained (d.worker.step s f.broker).broker := by
    intro r hr hp
    change (d.dispatch.after d.worker s f.broker).copies = _
    rw [Desk.after_of_record d.dispatch s f.broker hr]
    simp [copies_of_fits hfits hr hp]
  have none : (∀ r, d.worker.phase ≠ .committing r) →
      f.broker.gained (d.worker.step s f.broker).broker = [] →
      Effect f.broker (d.worker.step s f.broker).broker d (d.step s f.broker) := by
    intro hp hgain
    refine .none hgain hp (committed_of_does hdoes hp) fun r hr => ?_
    cases hrec : d.worker.record? with
    | none =>
        change (d.dispatch.after d.worker s f.broker).copies = _
        rw [Desk.after_of_no_record d.dispatch s f.broker hrec]
    | some r' => rw [hcopies r' hrec hp, hgain]
  cases hp : d.worker.phase with
  | committing r =>
      have hstep := Worker.step_committing (s := s) (b := f.broker) hp
      refine .acknowledge hp (Desk.gained_of_does hdoes fun _ _ _ e => by rw [hp] at e; cases e)
        (fun id => ?_) (by rw [Desk.step, hstep]; rfl)
      rw [hstep]
      exact (d.worker.membership f.broker).committed_commit r.topic r.partition r.offset id
  | publishing r outgoing more =>
      have hp' : ∀ r, d.worker.phase ≠ .committing r := fun _ e => by rw [hp] at e; cases e
      have hrec : d.worker.record? = some r := by rw [Worker.record?, hp]; rfl
      rcases Desk.publishing_cases hb hp s with ⟨hgain, -⟩ | ⟨y, hgain, -, -, hphase⟩
      · exact none hp' hgain
      · refine .copy hp hgain (committed_of_does hdoes hp') hphase ?_
        rw [hcopies r hrec hp', hgain]
  | idle | polling _ _ | opening _ | waiting _ _ _ _ | handling _ _ | returning _ _ | pausing _
  | closing | stopped =>
      refine none (fun _ e => by rw [hp] at e; cases e) ?_
      exact Desk.gained_of_does hdoes fun _ _ _ e => by rw [hp] at e; cases e

/-! ### Steps keep the ledger -/

/-- A step of a worker takes nothing out of a log. -/
theorem extends_of_does {w : Worker} {s : Surroundings} {b : Broker} {t : WorkerStep}
    (hb : b.Regular) (h : w.Does s b t) : b.Extends t.broker := by
  by_cases hp : ∃ r copy more, w.phase = .publishing r copy more
  · obtain ⟨r, copy, more, hp⟩ := hp
    rw [(h.of_publishing hp).1]
    exact Broker.extends_publish hb _ _
  · have hp' : ∀ r copy more, w.phase ≠ .publishing r copy more :=
      fun r copy more e => hp ⟨r, copy, more, e⟩
    exact .of_log_eq (Broker.log_congr (Desk.topics_of_does h hp'))

/-- The post of a worker's record has the worker's group. -/
theorem Sound.group_eq (hs : f.Sound c) (hc : c.Built) (hd : f.desks[i]? = some d)
    (hr : d.worker.record? = some r) {p : Post} (hp : p ∈ c.posts) (ht : p.topic = r.topic) :
    p.group = d.worker.consumer.group := by
  obtain ⟨q, hq⟩ := hs.at hd hr
  rw [hc.eq_of_topic hp hq.mem (ht.trans hq.topic.symm), hq.group]

/-- A record for which nothing was published yet has no copy. -/
theorem Ledger.not_copied (hl : Ledger c f) (hs : f.Sound c) (hc : c.Built)
    (hd : f.desks[i]? = some d) (hr : d.worker.record? = some r) (hcop : d.dispatch.copies = []) :
    r.place ∉ f.copies.map Copy.source := by
  intro hmem
  obtain ⟨a, ha, hsource⟩ := List.mem_map.mp hmem
  obtain ⟨p, route, stage, hlead⟩ := hl.leads a ha
  have hg : a.group = d.worker.consumer.group := by
    rw [← hlead.group]
    exact hs.group_eq hc hd hr hlead.mem (hlead.source.trans (congrArg Place.topic hsource))
  rcases hl.copied a ha with hack | ⟨j, d', hd', r', hp', hg', hplace, hcopies⟩
  · rw [hg, hsource] at hack
    exact hs.not_acknowledged hd hr hack
  · have hr' : d'.worker.record? = some r' := by rw [Worker.record?, hp']; rfl
    have hplace' : r'.place = r.place := hplace.trans hsource
    obtain rfl := hs.alone hd hr hd' hr' (congrArg Place.topic hplace')
      (congrArg Place.partition hplace') (hg'.trans hg)
    rw [hd] at hd'
    cases hd'
    rw [hcop] at hcopies
    cases hcopies

/-- A record that a worker deals with is not settled. -/
theorem Ledger.not_settled (hl : Ledger c f) (hs : f.Sound c) (hc : c.Built)
    (hd : f.desks[i]? = some d) (hr : d.worker.record? = some r) :
    r.place ∉ f.settled.map Settlement.place := by
  intro hmem
  obtain ⟨k, hk, hplace⟩ := List.mem_map.mp hmem
  obtain ⟨-, -, -, p, hp, hack⟩ := hl.settled k hk
  rw [hplace, hs.group_eq hc hd hr hp.mem (hp.topic.trans (congrArg Place.topic hplace))] at hack
  exact hs.not_acknowledged hd hr hack

theorem copied_nil (d : Desk) : d.copied [] = [] := by
  unfold Desk.copied
  split <;> rfl

theorem settled_of_not_committing (hp : ∀ r, d.worker.phase ≠ .committing r) : d.settled = [] := by
  unfold Desk.settled
  split
  · rename_i h
    exact absurd h (hp _)
  · rfl

/-- The values of a list with one more element. -/
theorem mem_map_concat {α β : Type} {g : α → β} {l : List α} {a : α} {y : β} :
    y ∈ (l ++ [a]).map g ↔ y ∈ l.map g ∨ y = g a := by
  rw [List.map_append, List.mem_append, List.map_singleton, List.mem_singleton]

section

variable {b : Broker} {d' : Desk}

theorem Ledger.kept_of_extends (hl : Ledger c f) (hext : f.broker.Extends b) :
    ∀ a ∈ f.copies, (b.entryAt? a.source).isSome ∧ a.target ≠ a.source :=
  fun a ha => ⟨hext.isSome_entryAt? (hl.kept a ha).1, (hl.kept a ha).2⟩

/-- What has a copy goes on to be acknowledged, or about to be, if another worker makes a step. -/
theorem Ledger.copied_set (hl : Ledger c f) (hd : f.desks[i]? = some d)
    (hp : ∀ r, d.worker.phase ≠ .committing r)
    (hack : ∀ id, (b.cursor id).committed = (f.broker.cursor id).committed) {a : Copy}
    (ha : a ∈ f.copies) : b.Acknowledged a.group a.source ∨
      ∃ (j : Nat) (x : Desk), (f.desks.set i d')[j]? = some x ∧ x.Finishes a := by
  simp only [Broker.Acknowledged, hack]
  rcases hl.copied a ha with h | ⟨j, x, hx, r, hpx, h⟩
  · exact .inl h
  · refine .inr ⟨j, x, (Session.member_set hd).mpr (.inr ⟨?_, hx⟩), r, hpx, h⟩
    rintro rfl
    rw [hd] at hx
    cases hx
    exact hp r hpx

/-- A step without an effect. -/
theorem Ledger.still (hl : Ledger c f) (hd : f.desks[i]? = some d) (hext : f.broker.Extends b)
    (hgain : f.broker.gained b = []) (hp : ∀ r, d.worker.phase ≠ .committing r)
    (hack : ∀ id, (b.cursor id).committed = (f.broker.cursor id).committed)
    (hcop : ∀ r, d'.worker.record? = some r → d'.dispatch.copies = []) :
    Ledger c { f with broker := b, desks := f.desks.set i d' } where
  nodup := hl.nodup
  entry_iff x := by rw [Broker.isSome_entryAt?_iff hext, hgain, hl.entry_iff]; simp
  once := hl.once
  leads := hl.leads
  kept := hl.kept_of_extends hext
  ordered := hl.ordered
  copied _ ha := hl.copied_set hd hp hack ha
  noted hx hr hy := by
    rcases (Session.member_set hd).mp hx with ⟨-, rfl⟩ | ⟨-, hx⟩
    · rw [hcop _ hr] at hy
      cases hy
    · exact hl.noted hx hr hy
  settledOnce := hl.settledOnce
  settled k hk := by
    simp only [Broker.Acknowledged, hack]
    exact hl.settled k hk
  acknowledged p hp' hcons x hx h := by
    simp only [Broker.Acknowledged, hack] at h
    exact hl.acknowledged p hp' hcons x hx h

/-- A copy that appears of a worker's record comes after all others. -/
theorem Ledger.precedes (hl : Ledger c f) (hs : f.Sound c) (hd : f.desks[i]? = some d)
    (hr : d.worker.record? = some r) (hp : ∀ r, d.worker.phase ≠ .committing r) {y : Place}
    (hnone : f.broker.entryAt? y = .none) {a : Copy} (ha : a ∈ f.copies) :
    a.Precedes ⟨d.worker.consumer.group, r.place, y⟩ where
  source hg ht hpart := by
    obtain ⟨hk, hcur⟩ := hs.held hd hr
    rcases hl.copied a ha with hack | ⟨j, d', hd', r', hp', hg', hplace, -⟩
    · -- what is acknowledged is in front of what is held
      have hid : (⟨a.group, a.source.topic, a.source.partition⟩ : CursorId) =
          ⟨d.worker.consumer.group, r.topic, r.partition⟩ := by
        rw [hg, ht, hpart, hk.coordinates.1]
        rfl
      rw [Broker.Acknowledged, hid, hcur] at hack
      exact Int.ofNat_lt.mp hack
    · -- another worker of the group cannot hold a record of the partition
      have hr' : d'.worker.record? = some r' := by rw [Worker.record?, hp']; rfl
      obtain rfl := hs.alone hd hr hd' hr' ((congrArg Place.topic hplace).trans ht)
        ((congrArg Place.partition hplace).trans hpart) (hg'.trans hg)
      rw [hd] at hd'
      cases hd'
      exact absurd hp' (hp r')
  target ht hpart := by
    -- `a` is in its log, and the place of the new copy was behind the end of it
    have hmem : a.target ∈ f.published ++ f.copies.map Copy.target :=
      List.mem_append_right _ (List.mem_map_of_mem ha)
    rw [← hl.entry_iff, Broker.isSome_entryAt?, ht, hpart] at hmem
    have hy : ¬ (f.broker.entryAt? y).isSome := by simp [hnone]
    rw [Broker.isSome_entryAt?] at hy
    dsimp only at hmem ⊢
    omega
  fresh := by
    rintro rfl
    have := (hl.kept a ha).1
    rw [hnone] at this
    cases this

/-- A copy appears of the record that a worker holds. -/
theorem Ledger.copy (hl : Ledger c f) (hs : f.Sound c) (hc : c.Built)
    (hd : f.desks[i]? = some d) (hext : f.broker.Extends b) {y : Place}
    (hgain : f.broker.gained b = [y]) (hr : d.worker.record? = some r)
    (hp : ∀ r, d.worker.phase ≠ .committing r)
    (hack : ∀ id, (b.cursor id).committed = (f.broker.cursor id).committed)
    (hp' : d'.worker.phase = .committing r) (hcop : d'.dispatch.copies = [y])
    (hg : d'.worker.consumer.group = d.worker.consumer.group)
    (hlead : ∃ p route stage,
      (⟨d.worker.consumer.group, r.place, y⟩ : Copy).Leads c p route stage) :
    Ledger c { f with
      broker := b, desks := f.desks.set i d'
      copies := f.copies ++ [⟨d.worker.consumer.group, r.place, y⟩] } := by
  have hcopies : d.dispatch.copies = [] := copies_of_fits (hs.orderly hd).fits hr hp
  have hkeep := (hs.held hd hr).1.entryAt?
  have hnone : f.broker.entryAt? y = none :=
    ((Broker.mem_gained _ _ _).mp (hgain ▸ List.mem_singleton_self y)).2
  have hnew : y ∉ f.published ++ f.copies.map Copy.target := by
    rw [← hl.entry_iff, hnone]
    simp
  have hne : y ≠ r.place := by
    rintro rfl
    rw [hnone] at hkeep
    cases hkeep
  exact {
    nodup := by
      rw [List.map_append, List.map_singleton, ← List.append_assoc, ← List.concat_eq_append]
      exact .concat hnew hl.nodup
    entry_iff := fun x => by
      rw [Broker.isSome_entryAt?_iff hext, hgain, hl.entry_iff]
      simp [or_assoc]
    once := by
      rw [List.map_append, List.map_singleton, ← List.concat_eq_append]
      exact .concat (hl.not_copied hs hc hd hr hcopies) hl.once
    leads := List.forall_mem_append.mpr ⟨hl.leads, List.forall_mem_singleton.mpr hlead⟩
    kept := List.forall_mem_append.mpr ⟨hl.kept_of_extends hext,
      List.forall_mem_singleton.mpr ⟨hext.isSome_entryAt? hkeep, hne⟩⟩
    ordered := List.pairwise_append.mpr ⟨hl.ordered, List.pairwise_singleton .., fun a ha =>
      List.forall_mem_singleton.mpr (hl.precedes hs hd hr hp hnone ha)⟩
    copied := List.forall_mem_append.mpr ⟨fun _ ha => hl.copied_set hd hp hack ha,
      List.forall_mem_singleton.mpr
        (.inr ⟨i, d', (Session.member_set hd).mpr (.inl ⟨rfl, rfl⟩), r, hp', hg, rfl, hcop⟩)⟩
    noted := by
      intro j x r' z hx hr' hz
      rcases (Session.member_set hd).mp hx with ⟨-, rfl⟩ | ⟨-, hx⟩
      · rw [Worker.record?, hp'] at hr'
        cases hr'
        rw [hcop, List.mem_singleton] at hz
        rw [hz, hg]
        simp
      · exact List.mem_append_left _ (hl.noted hx hr' hz)
    settledOnce := hl.settledOnce
    settled := fun k hk => by
      simp only [Broker.Acknowledged, hack]
      obtain ⟨hfree, hk'⟩ := hl.settled k hk
      refine ⟨fun h => ?_, hk'⟩
      rcases mem_map_concat.mp h with h | h
      · exact hfree h
      · exact hl.not_settled hs hc hd hr (List.mem_map.mpr ⟨k, hk, h⟩)
    acknowledged := fun p hpost hcons x hx h => by
      simp only [Broker.Acknowledged, hack] at h
      rcases hl.acknowledged p hpost hcons x hx h with h | h
      · exact .inl (mem_map_concat.mpr (.inl h))
      · exact .inr h }

/-- After a record is acknowledged, the group has acknowledged what it had before, and it. -/
theorem Sound.acknowledged_iff (hs : f.Sound c) (hd : f.desks[i]? = some d)
    (hp : d.worker.phase = .committing r)
    (hack : ∀ id, (b.cursor id).committed =
      if id = ⟨d.worker.consumer.group, r.topic, r.partition⟩ then
        max (f.broker.cursor id).committed (r.offset + 1) else (f.broker.cursor id).committed)
    (g : String) (x : Place) : b.Acknowledged g x ↔
      f.broker.Acknowledged g x ∨ g = d.worker.consumer.group ∧ x = r.place := by
  have hr : d.worker.record? = some r := by rw [Worker.record?, hp]; rfl
  obtain ⟨hk, hcur⟩ := hs.held hd hr
  obtain ⟨hpart, hoff⟩ := hk.coordinates
  simp only [Broker.Acknowledged, hack]
  by_cases e : (⟨g, x.topic, x.partition⟩ : CursorId) =
      ⟨d.worker.consumer.group, r.topic, r.partition⟩
  · rw [if_pos e, e, hcur]
    simp only [CursorId.mk.injEq] at e
    obtain ⟨hg, ht, hxp⟩ := e
    have hx : x = r.place ↔ x.offset = r.place.offset := by
      constructor
      · rintro rfl
        rfl
      · intro ho
        obtain ⟨t, q, o⟩ := x
        simp only at ht hxp ho
        rw [← hpart, Int.ofNat_inj] at hxp
        rw [ht, hxp, ho]
        rfl
    simp only [hg, hx, Cursor.after, true_and]
    omega
  · rw [if_neg e]
    refine ⟨.inl, fun h => h.resolve_right ?_⟩
    rintro ⟨rfl, rfl⟩
    exact e (by rw [hpart]; rfl)

/-- What is settled when a worker acknowledges its record. -/
theorem mem_settled (hp : d.worker.phase = .committing r) {k : Settlement} :
    k ∈ d.settled ↔ d.dispatch.copies = [] ∧ k = ⟨d.worker, r, d.dispatch⟩ := by
  simp only [Desk.settled, hp]
  split
  · rename_i hcop
    simp [hcop]
  · rename_i hcop
    simp [hcop]

/-- A record is acknowledged. -/
theorem Ledger.acknowledge (hl : Ledger c f) (hs : f.Sound c) (hc : c.Built)
    (hd : f.desks[i]? = some d) (hext : f.broker.Extends b) (hgain : f.broker.gained b = [])
    (hp : d.worker.phase = .committing r)
    (hack : ∀ id, (b.cursor id).committed =
      if id = ⟨d.worker.consumer.group, r.topic, r.partition⟩ then
        max (f.broker.cursor id).committed (r.offset + 1) else (f.broker.cursor id).committed)
    (hp' : d'.worker.record? = none) :
    Ledger c { f with
      broker := b, desks := f.desks.set i d', settled := f.settled ++ d.settled } := by
  have hr : d.worker.record? = some r := by rw [Worker.record?, hp]; rfl
  have hiff := hs.acknowledged_iff hd hp hack
  obtain ⟨post, hat⟩ := hs.at hd hr
  obtain ⟨e, he, -⟩ := hs.ends hd hp
  exact {
    nodup := hl.nodup
    entry_iff := fun x => by
      rw [Broker.isSome_entryAt?_iff hext, hgain, hl.entry_iff]
      simp
    once := hl.once
    leads := hl.leads
    kept := hl.kept_of_extends hext
    ordered := hl.ordered
    copied := by
      intro a ha
      rcases hl.copied a ha with h | ⟨j, x, hx, r', hpx, hg, hplace, h⟩
      · exact .inl ((hiff _ _).mpr (.inl h))
      · by_cases hj : j = i
        · -- the worker acknowledges what it published a copy of
          subst hj
          rw [hd] at hx
          cases hx
          rw [hp] at hpx
          cases hpx
          exact .inl ((hiff _ _).mpr (.inr ⟨hg.symm, hplace.symm⟩))
        · exact .inr ⟨j, x, (Session.member_set hd).mpr (.inr ⟨hj, hx⟩), r', hpx, hg, hplace, h⟩
    noted := by
      intro j x r' y hx hr' hy
      rcases (Session.member_set hd).mp hx with ⟨-, rfl⟩ | ⟨-, hx⟩
      · rw [hp'] at hr'
        cases hr'
      · exact hl.noted hx hr' hy
    settledOnce := by
      rw [List.map_append]
      refine List.nodup_append.mpr ⟨hl.settledOnce, ?_, ?_⟩
      · simp only [Desk.settled, hp]
        split <;> simp
      · intro x hx z hz hxz
        obtain ⟨k, hk, rfl⟩ := List.mem_map.mp hz
        obtain ⟨-, rfl⟩ := (mem_settled hp).mp hk
        have hplace : x = r.place := hxz
        exact hl.not_settled hs hc hd hr (hplace ▸ hx)
    settled := by
      intro k hk
      rcases List.mem_append.mp hk with hk | hk
      · obtain ⟨h₁, h₂, h₃, p, hpost, h₄⟩ := hl.settled k hk
        exact ⟨h₁, h₂, h₃, p, hpost, (hiff _ _).mpr (.inl h₄)⟩
      · obtain ⟨hcop, rfl⟩ := (mem_settled hp).mp hk
        exact ⟨hl.not_copied hs hc hd hr hcop, hcop, ⟨e, he⟩, post, hat,
          (hiff _ _).mpr (.inr ⟨hat.group, rfl⟩)⟩
    acknowledged := by
      intro p hpost hcons x hx h
      rw [List.map_append, List.mem_append]
      rcases (hiff _ _).mp h with h | ⟨-, rfl⟩
      · exact (hl.acknowledged p hpost hcons x hx h).imp_right .inl
      · by_cases hcop : d.dispatch.copies = []
        · exact .inr (.inr (List.mem_map.mpr ⟨_, (mem_settled hp).mpr ⟨hcop, rfl⟩, rfl⟩))
        · -- a copy was noted by the dispatch
          obtain ⟨y, hy⟩ := List.exists_mem_of_ne_nil _ hcop
          exact .inl (List.mem_map.mpr ⟨_, hl.noted hd hr hy, rfl⟩) }

end

/-! ### Runs -/

/-- Where a copy that was just published leads. -/
theorem Sound.leads (hs : f.Sound c) (hd : f.desks[i]? = some d) (s : Surroundings) {y : Place}
    (hr : d.worker.record? = some r) (hp' : (d.step s f.broker).worker.phase = .committing r)
    (hcop : (d.step s f.broker).dispatch.copies = [y]) :
    ∃ p route stage, (⟨d.worker.consumer.group, r.place, y⟩ : Copy).Leads c p route stage := by
  obtain ⟨post, hat⟩ := hs.at hd hr
  obtain ⟨history, hsession⟩ := hs.session
  have horder := (hs.orderly hd).step hsession.regular s
  obtain ⟨consumer, phase, seenSignal, redelivery, hw⟩ := d.worker.step_worker s f.broker
  change (d.step s f.broker).worker = _ at hw
  have hfits := horder.fits
  rw [show (f.session history).broker = f.broker from rfl, hp'] at hfits
  cases hfits with
  | free h => cases h
  | early h _ => cases h
  | committing h =>
      cases h with
      | accepted _ _ hc | buried _ _ _ _ hc | discarded _ _ hc =>
          rw [hcop] at hc
          cases hc
      | @copied route stage y' hroute hstage hc ht hq =>
          have hyy : y' = y := by
            rw [hcop] at hc
            exact (List.singleton_inj.mp hc).symm
          subst hyy
          have hoff := horder.offers route hroute
          rw [show (f.session history).broker = f.broker from rfl] at hoff
          rw [hw] at hoff ht
          refine ⟨post, route, stage, hat.mem, hat.topic, hat.group, hat.isConsumed, ?_, hstage,
            ?_, ?_⟩
          · rw [hat.stage, hat.configuration]
            exact hoff
          · rw [hat.main]
            exact ht
          · intro q hq'
            rw [(hs.held hd hr).1.coordinates.1] at hq'
            exact hq q hq'

/-- A worker's step keeps the ledger. -/
theorem Ledger.work (hl : Ledger c f) (hs : f.Sound c) (hc : c.Built) (i : Nat)
    (s : Surroundings) : Ledger c (f.work i s) := by
  cases hd : f.desks[i]? with
  | none => rwa [work_of_none hd]
  | some d =>
      rw [work_eq hd]
      obtain ⟨history, hsession⟩ := hs.session
      have hdoes := d.worker.does_step s f.broker
      have hext := extends_of_does hsession.regular hdoes
      cases hs.effect hd s with
      | none hgain hp hack hcop =>
          rw [hgain, copied_nil, settled_of_not_committing hp, List.append_nil, List.append_nil]
          exact hl.still hd hext hgain hp hack hcop
      | @copy r outgoing more y hp hgain hack hp' hcop =>
          have hr : d.worker.record? = some r := by rw [Worker.record?, hp]; rfl
          have hne : ∀ r, d.worker.phase ≠ .committing r := fun _ e => by rw [hp] at e; cases e
          have hcopied : d.copied [y] = [⟨d.worker.consumer.group, r.place, y⟩] := by
            simp [Desk.copied, hr]
          rw [hgain, hcopied, settled_of_not_committing hne, List.append_nil]
          exact hl.copy hs hc hd hext hgain hr hne hack hp' hcop (Desk.group_of_does hdoes).1
            (hs.leads hd s hr hp' hcop)
      | acknowledge hp hgain hack hp' =>
          rw [hgain, copied_nil, List.append_nil]
          exact hl.acknowledge hs hc hd hext hgain hp hack hp'

/-- A change of the broker from outside, and workers that join. -/
theorem Ledger.grow (hl : Ledger c f) {b : Broker} (hb : b.cursors = f.broker.cursors)
    (hext : f.broker.Extends b) {l : List Desk} (hnew : ∀ x ∈ l, x.worker.record? = none)
    (hreg : b.Regular) :
    Ledger c { f with
      broker := b, desks := f.desks ++ l, published := f.published ++ f.broker.gained b } where
  nodup := by
    have hperm : (f.published ++ f.broker.gained b ++ f.copies.map Copy.target).Perm
        (f.published ++ f.copies.map Copy.target ++ f.broker.gained b) := by
      rw [List.append_assoc, List.append_assoc]
      exact List.perm_append_comm.append_left f.published
    refine hperm.nodup_iff.mpr (List.nodup_append.mpr
      ⟨hl.nodup, (Broker.nodup_places hreg).filter _, fun x hx y hy e => ?_⟩)
    rw [← hl.entry_iff, e, ((Broker.mem_gained _ _ _).mp hy).2] at hx
    cases hx
  entry_iff x := by
    rw [Broker.isSome_entryAt?_iff hext, hl.entry_iff]
    simp only [List.mem_append]
    tauto
  once := hl.once
  leads := hl.leads
  kept := hl.kept_of_extends hext
  ordered := hl.ordered
  copied a ha := by
    simp only [Broker.Acknowledged, Broker.cursor_congr hb]
    rcases hl.copied a ha with h | ⟨j, x, hx, h⟩
    · exact .inl h
    · refine .inr ⟨j, x, ?_, h⟩
      rw [List.getElem?_append_left (List.getElem?_eq_some_iff.mp hx).1, hx]
  noted hx hr hy := by
    rw [List.getElem?_append] at hx
    split at hx
    · exact hl.noted hx hr hy
    · rw [hnew _ (List.mem_of_getElem? hx)] at hr
      cases hr
  settledOnce := hl.settledOnce
  settled k hk := by
    simp only [Broker.Acknowledged, Broker.cursor_congr hb]
    exact hl.settled k hk
  acknowledged p hp hcons x hx h := by
    simp only [Broker.Acknowledged, Broker.cursor_congr hb] at h
    exact hl.acknowledged p hp hcons x hx h

/-- Every move keeps the ledger. -/
theorem Ledger.move (hl : Ledger c f) (hs : f.Sound c) (hc : c.Built) (m : Move) :
    Ledger c (f.move c m) := by
  obtain ⟨history, h⟩ := hs.session
  have hb : f.broker.Regular := h.regular
  have hsame : ∀ {b : Broker}, b.cursors = f.broker.cursors →
      (∀ t p, b.log t p = f.broker.log t p) → b.Regular → ∀ {l : List Desk},
      (∀ x ∈ l, x.worker.record? = none) →
      Ledger c { f with broker := b, desks := f.desks ++ l } := by
    intro b hcur hlog hreg l hnew
    have := hl.grow hcur (.of_log_eq hlog) hnew hreg
    rwa [Broker.gained_of_log_eq hlog, List.append_nil] at this
  cases m with
  | publish now r =>
      have := hl.grow (l := []) (Broker.cursors_publish f.broker now r)
        (Broker.extends_publish hb now r) (by simp) (hb.publish now r)
      rwa [List.append_nil] at this
  | create requests =>
      have := hsame (l := []) (Broker.cursors_createTopics f.broker requests)
        (Broker.log_createTopics f.broker requests) (hb.createTopics requests) (by simp)
      rwa [List.append_nil] at this
  | refuse n =>
      have := hsame (b := f.broker.refuseNext n) (l := []) rfl (fun _ _ => rfl) ⟨hb.1, hb.2⟩
        (by simp)
      rwa [List.append_nil] at this
  | start =>
      refine hsame (Broker.cursors_createTopics f.broker _) (Broker.log_createTopics f.broker _)
        (hb.createTopics _) fun x hx => ?_
      obtain ⟨w, hw, rfl⟩ := List.mem_map.mp hx
      rw [Worker.record?, (Container.mem_start hw).2.1]
      rfl
  | work i s => exact hl.work hs hc i s

/-- **The ledger** of every run. -/
theorem ledger_run (hc : c.Built) (moves : List Move) : Ledger c (run c moves) := by
  induction moves using List.reverseRecOn with
  | nil => exact ledger_empty c
  | append_singleton moves m ih =>
      rw [run_concat]
      exact ih.move (sound_run c moves) hc m

end Fleet

end Redelivery
