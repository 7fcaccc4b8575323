import Mathlib.Algebra.GroupWithZero.Nat
import Redelivery.Proofs.Fleet.Journal
import Redelivery.Proofs.Fleet.Passage
import Redelivery.Proofs.RetryState.Reading
import Redelivery.Proofs.Route.Walk

/-!
# Fleet — what records carry with them

A record of a main topic is passed on from stage to stage, and its `Journal.Trail` has the hops that
it has made.  All that is known of them is what the headers of its last copy say (`Carries`).

**Carriage** (`run_carries`).  Whatever headers the record was published with, each copy of it says
where the record comes from, how many hops it has made, when the worker on the main stage read it
that passed it on, and why it failed last.  Its key, its payload and all other headers are as they
were.  A record that is given back counts no hop: a worker that takes it again finds the count that
was there before (`CountsHops`).
-/

namespace Redelivery

/-- What a record carries that has come from the record `r` at `x` by one hop or more: the state in
its headers says where it comes from, and what happened on the way. -/
structure Carries (x : Place) (hops : List Hop) (r r' : Record) (state : RetryState) : Prop where
  read : RetryState.read r'.headers = .ok (some state)
  topic : state.originalTopic = x.topic
  partition : x.partition < 2 ^ 31 → state.originalPartition.toInt = x.partition
  offset : x.offset < 2 ^ 63 → state.originalOffset.toInt = x.offset
  attempts : hops.length < 2 ^ 32 → state.attempts.toNat = hops.length
  /-- When the record was read on the main stage, before its first hop. -/
  firstAttempt : ∃ h, hops.head? = some h ∧ h.note.opened = some state.firstAttempt
  /-- The failure before the last hop. -/
  failure : ∃ h f, hops.getLast? = some h ∧ h.note.failure = some f ∧
    state.failureKind = some f.kind ∧ state.failureMessage = some f.message
  /-- Each header of the state is there once. -/
  once : ∀ k : RetryHeader, r'.headers.count k.key = 1
  key : r'.key = r.key
  payload : r'.payload = r.payload
  foreign : r'.headers.foreign = r.headers.foreign

namespace Journal

/-- The hops of a record from a place to another, in order. -/
inductive Trail (j : Journal) (x : Place) : List Hop → Place → Prop where
  | nil : Trail j x [] x
  | snoc {hops : List Hop} {y : Place} {h : Hop} (t : Trail j x hops y) (hh : h ∈ j.hops)
      (hs : h.copy.source = y) : Trail j x (hops ++ [h]) h.copy.target

end Journal

/-- The state of a record that a worker goes on with. -/
def Phase.state? : Phase → Option RetryState
  | .waiting _ state _ _ | .handling _ state => some state
  | _ => none

/-! ### One hop -/

section

variable {x : Place} {hops : List Hop} {h : Hop} {r r' r'' : Record} {state : RetryState}
  {t : Instant} {f : Failure}

theorem toNat_nextCount_of_lt {n : UInt32} {k : Nat} (hn : k < 2 ^ 32 → n.toNat = k)
    (hk : k + 1 < 2 ^ 32) : (nextCount n).toNat = k + 1 := by
  rw [toNat_nextCount, hn (by omega)]
  have : UInt32.size = 2 ^ 32 := rfl
  omega

/-- **The first hop**, from the main stage. -/
theorem carries_first (hn : h.note = ⟨some t, some f⟩)
    (hr : r.topic = x.topic ∧ r.partition = x.partition ∧ r.offset = x.offset)
    (hp : r.PassedOn (.first r t) f r') : ∃ state, Carries x [h] r r' state := by
  obtain ⟨next, hread, ht, hpart, hoff, hatt, hfirst, hkind, hmessage⟩ := hp.exists_read
  refine ⟨next, {
    read := hread
    topic := ht.trans hr.1
    partition := fun hlt => ?_
    offset := fun hlt => ?_
    attempts := fun hlt => ?_
    firstAttempt := ⟨h, rfl, by rw [hn, hfirst]; rfl⟩
    failure := ⟨h, f, rfl, by rw [hn], hkind, hmessage⟩
    once := hp.count
    key := hp.key
    payload := hp.payload
    foreign := hp.foreign }⟩
  · rw [hpart, RetryState.first, hr.2.1]
    exact Int32.toInt_ofInt_of_le (by omega) (by omega)
  · rw [hoff, RetryState.first, hr.2.2]
    exact Int64.toInt_ofInt_of_le (by omega) (by omega)
  · rw [hatt]
    exact toNat_nextCount_of_lt (k := 0) (fun _ => rfl) hlt

/-- **Each further hop.** -/
theorem Carries.next (hc : Carries x hops r r' state) (hn : h.note = ⟨some t, some f⟩)
    (hp : r'.PassedOn state f r'') : ∃ state, Carries x (hops ++ [h]) r r'' state := by
  obtain ⟨next, hread, ht, hpart, hoff, hatt, hfirst, hkind, hmessage⟩ := hp.exists_read
  obtain ⟨h₀, hhead, hopened⟩ := hc.firstAttempt
  refine ⟨next, {
    read := hread
    topic := ht.trans hc.topic
    partition := fun hlt => by rw [hpart, hc.partition hlt]
    offset := fun hlt => by rw [hoff, hc.offset hlt]
    attempts := fun hlt => ?_
    firstAttempt := ⟨h₀, ?_, by rw [hopened, hfirst]⟩
    failure := ⟨h, f, List.getLast?_concat .., by rw [hn], hkind, hmessage⟩
    once := hp.count
    key := hp.key.trans hc.key
    payload := hp.payload.trans hc.payload
    foreign := hp.foreign.trans hc.foreign }⟩
  · rw [List.length_append, List.length_singleton] at hlt ⊢
    rw [hatt]
    exact toNat_nextCount_of_lt hc.attempts hlt
  · rw [List.head?_append, hhead]
    rfl

end

/-! ### Where hops lead -/

/-- No copy is published to a main stage. -/
theorem Copy.Leads.not_isMain {c : Container} (hc : c.Built) {a : Copy} {p : Post} {route : Route}
    {stage : Stage} (h : a.Leads c p route stage) : stage.isMain = false := by
  obtain ⟨he, -, hmem⟩ := Container.mem_posts.mp h.mem
  obtain ⟨s, draw, hbuild⟩ := hc.planned he
  have hnot : stage.role ≠ .main := by
    intro hmain
    cases h.offers with
    | retry hnext =>
        obtain rfl := Option.some.inj h.leadsTo
        have hretry := (List.mem_filter.mp
          (ChainSpec.mem_retries_of_retryAfter? hbuild rfl hmem hnext)).2
        rw [hmain] at hretry
        cases hretry
    | deadLetter _ hdead =>
        obtain rfl := Option.some.inj h.leadsTo
        rw [hmain] at hdead
        cases hdead
    | discard _ => cases h.leadsTo
  simpa [Stage.isMain] using hnot

namespace Journal

variable {c : Container} {j : Journal} {x y : Place} {hops : List Hop}

/-- Trails are the ways that records were passed on. -/
theorem reaches_iff (hj : j.hops.map Hop.copy = j.fleet.copies) :
    j.fleet.Reaches x y ↔ ∃ hops, j.Trail x hops y := by
  constructor
  · intro h
    induction h with
    | refl => exact ⟨[], .nil⟩
    | tail _ hstep ih =>
        obtain ⟨a, ha, rfl, rfl⟩ := hstep
        obtain ⟨hops, ht⟩ := ih
        rw [← hj] at ha
        obtain ⟨h, hh, rfl⟩ := List.mem_map.mp ha
        exact ⟨_, ht.snoc hh rfl⟩
  · rintro ⟨hops, ht⟩
    induction ht with
    | nil => exact .refl
    | snoc _ hh hs ih =>
        exact ih.tail ⟨_, hj ▸ List.mem_map_of_mem hh, hs, rfl⟩

/-- The end of a trail that has begun on a main stage is on that stage, or else it is on another
one with a record that carries what the hops say. -/
inductive Arrives (c : Container) (j : Journal) (x : Place) (r : Record) :
    List Hop → Place → Prop where
  | start {p : Post} (hp : p ∈ c.posts) (ht : p.topic = x.topic) (hm : p.stage.isMain = true) :
      Arrives c j x r [] x
  | hop {hops : List Hop} {y : Place} {p : Post} {r' : Record} {state : RetryState}
      (hp : p ∈ c.posts) (ht : p.topic = y.topic) (hm : p.stage.isMain = false)
      (hr : j.fleet.broker.recordAt? y = some r') (hc : Carries x hops r r' state) :
      Arrives c j x r hops y

/-- **The trail** of a record of a main topic. -/
theorem Trail.arrives (hc : c.Built) (hl : j.fleet.Ledger c) (hj : Faithful c j)
    (hcopies : j.hops.map Hop.copy = j.fleet.copies) {p : Post} (hp : p ∈ c.posts)
    (hx : p.topic = x.topic) (hm : p.stage.isMain = true) {r : Record}
    (hr : j.fleet.broker.recordAt? x = some r) (t : j.Trail x hops y) :
    Arrives c j x r hops y := by
  induction t with
  | nil => exact .start hp hx hm
  | @snoc hops y h t hh hs ih =>
      obtain ⟨q, r₁, r₂, time, f, hmade⟩ := hj.made h hh
      obtain ⟨q', route, stage, hlead⟩ := hl.leads h.copy (hcopies ▸ List.mem_map_of_mem hh)
      have hsource := hmade.source
      rw [hs] at hsource
      -- the record that was passed on is the one that the trail has come to
      have hcarry : ∃ state, Carries x (hops ++ [h]) r r₂ state := by
        cases ih with
        | start hp' ht' hm' =>
            obtain rfl : q = _ := hc.eq_of_topic hmade.mem hp'
              (hmade.topic.trans (by rw [hs, ht']))
            obtain rfl : r₁ = r := Option.some.inj (hsource.symm.trans hr)
            obtain ⟨e, -, rfl⟩ := Option.map_eq_some_iff.mp hr
            exact carries_first hmade.note ⟨rfl, rfl, rfl⟩ (hmade.main hm')
        | hop hp' ht' hm' hr' hcarry =>
            obtain rfl : q = _ := hc.eq_of_topic hmade.mem hp'
              (hmade.topic.trans (by rw [hs, ht']))
            obtain rfl := Option.some.inj (hsource.symm.trans hr')
            exact hcarry.next hmade.note (hmade.later hm' _ hcarry.read)
      obtain ⟨state, hcarry⟩ := hcarry
      exact .hop hlead.mem_target hlead.target.symm (hlead.not_isMain hc) hmade.target hcarry

/-! ### Counting hops -/

/-- The record at a place that it has come to by hops is counted as attempted once for each. -/
structure CountsHops (j : Journal) (hops : List Hop) (y : Place) : Prop where
  /-- However often the record is taken, the worker finds the hops that it has made. -/
  found : ∀ {i : Nat} {d : Desk} {r : Record} {state : RetryState},
    j.fleet.desks[i]? = some d → d.worker.record? = some r → r.place = y →
    d.worker.phase.state? = some state → hops.length < 2 ^ 32 →
    state.attempts.toNat = hops.length
  /-- However often a copy is tried to publish, it counts one hop more. -/
  told : ∀ {i : Nat} {d : Desk} {r : Record} {copy : Outgoing} {more : Nat},
    j.fleet.desks[i]? = some d → d.worker.phase = .publishing r copy more → r.place = y →
    ∃ state, RetryState.read copy.headers = .ok (some state) ∧
      (hops.length + 1 < 2 ^ 32 → state.attempts.toNat = hops.length + 1)

/-- The state of a record at the end of a trail, and what it counts. -/
theorem Arrives.stateOf (hc : c.Built) (hs : j.fleet.Sound c) {r r' : Record}
    (ha : Arrives c j x r hops y) {i : Nat} {d : Desk} (hd : j.fleet.desks[i]? = some d)
    (hr : d.worker.record? = some r') (hy : r'.place = y) (t : Instant) :
    ∃ state, d.worker.stateOf t r' = .ok state ∧
      (hops.length < 2 ^ 32 → state.attempts.toNat = hops.length) := by
  obtain ⟨p, hat⟩ := hs.at hd hr
  have htopic : p.topic = y.topic := by rw [hat.topic, ← hy]; rfl
  -- a stage other than the main one reads the headers, which say how many hops there were
  cases ha with
  | start hp' ht hm =>
      obtain rfl := hc.eq_of_topic hat.mem hp' (htopic.trans ht.symm)
      rw [hat.stage] at hm
      exact ⟨_, Worker.stateOf_of_isMain hm t r', fun _ => rfl⟩
  | @hop _ _ _ r₁ _ hp' ht hm hrec hcarry =>
      obtain rfl := hc.eq_of_topic hat.mem hp' (htopic.trans ht.symm)
      have hkept := (hs.held hd hr).1.recordAt?
      rw [hy, hrec] at hkept
      obtain rfl : r₁ = r' := Option.some.inj hkept
      rw [hat.stage] at hm
      exact ⟨_, (Worker.stateOf_of_not_isMain hm t).mpr hcarry.read, hcarry.attempts⟩

/-- The state that a worker goes on with is the one that it read. -/
theorem exists_stateOf {w : Worker} {n : Note} {r : Record} {state : RetryState}
    (hn : Noted w n w.phase) (hr : w.record? = some r) (hstate : w.phase.state? = some state) :
    ∃ t, w.stateOf t r = .ok state := by
  rw [Worker.record?] at hr
  generalize w.phase = p at hn hr hstate
  cases hn with
  | free h =>
      rw [h] at hr
      cases hr
  | waiting h | handling h =>
      cases hr
      cases hstate
      exact ⟨_, h⟩
  | opening | publishing _ | committing | returning => cases hstate

theorem Arrives.countsHops (hc : c.Built) (hs : j.fleet.Sound c) (hj : Faithful c j) {r : Record}
    (ha : Arrives c j x r hops y) : j.CountsHops hops y where
  found hd hr hy hstate := by
    obtain ⟨t, ht⟩ := exists_stateOf (hj.noted hd) hr hstate
    obtain ⟨state, hread, hcount⟩ := ha.stateOf hc hs hd hr hy t
    obtain rfl := Except.ok.inj (hread.symm.trans ht)
    exact hcount
  told {i d r' copy more} hd hp hy := by
    have hr : d.worker.record? = some r' := congrArg Phase.record? hp
    have hn := hj.noted hd
    rw [hp] at hn
    generalize j.notes i = n at hn
    cases hn with
    | free h => cases h
    | @publishing _ _ _ t f hcopies =>
        obtain ⟨state, hread, hcount⟩ := ha.stateOf hc hs hd hr hy t
        obtain ⟨stage, topic, due, rfl⟩ := hcopies state hread
        exact ⟨_, state.read_nextHop f due r'.headers, toNat_nextCount_of_lt hcount⟩

/-! ### Runs -/

/-- What the records of a container carry. -/
structure Carriage (c : Container) (j : Journal) : Prop where
  /-- Trails are the ways that records were passed on. -/
  reaches_iff : ∀ x y, j.fleet.Reaches x y ↔ ∃ hops, j.Trail x hops y
  /-- Every copy of a record of a main topic is on another stage and carries what its hops say. -/
  carries : ∀ e configuration, (e, configuration) ∈ c.endpoints → ∀ x ∈ j.fleet.published,
    x.topic ∈ e.topics → ∃ r, j.fleet.broker.recordAt? x = some r ∧
      ∀ hops y, j.Trail x hops y → hops ≠ [] →
        (∃ p ∈ c.posts, p.topic = y.topic ∧ p.stage.isMain = false) ∧
        ∃ r' state, j.fleet.broker.recordAt? y = some r' ∧ Carries x hops r r' state
  /-- Only hops are counted. -/
  counts : ∀ e configuration, (e, configuration) ∈ c.endpoints → ∀ x ∈ j.fleet.published,
    x.topic ∈ e.topics → ∀ hops y, j.Trail x hops y → j.CountsHops hops y

/-- **What records carry**, whatever the workers of a container do and in whatever order. -/
theorem run_carries (hc : c.Built) (moves : List Move) :
    (run c moves).fleet = Fleet.run c moves ∧
    (run c moves).hops.map Hop.copy = (Fleet.run c moves).copies ∧
    Carriage c (run c moves) := by
  have hfleet := fleet_run c moves
  have hcopies := copies_run c moves
  have hs := Fleet.sound_run c moves
  have hl := Fleet.ledger_run hc moves
  have hj := faithful_run c moves
  refine ⟨hfleet, hcopies, ?_⟩
  rw [← hfleet] at hcopies hs hl
  -- the trails of a record of a main topic begin on the main stage
  have harrives : ∀ e configuration, (e, configuration) ∈ c.endpoints →
      ∀ x ∈ (run c moves).fleet.published, x.topic ∈ e.topics →
      ∃ r, (run c moves).fleet.broker.recordAt? x = some r ∧
        ∀ hops y, (run c moves).Trail x hops y → Arrives c (run c moves) x r hops y := by
    intro e configuration he x hx ht
    obtain ⟨p, hp, hpt, -, -, hstage⟩ := hc.exists_post he ht
    obtain ⟨spec, draw, hbuild⟩ := hc.planned he
    have hmain : p.stage.isMain = true := hstage ▸ (ChainSpec.build_eq_ok hbuild).2.1.main
    obtain ⟨r, hr⟩ : ∃ r, (run c moves).fleet.broker.recordAt? x = some r := by
      rw [← Option.isSome_iff_exists, Broker.recordAt?, Option.isSome_map]
      exact (hl.entry_iff x).mpr (List.mem_append_left _ hx)
    exact ⟨r, hr, fun hops y htrail => htrail.arrives hc hl hj hcopies hp hpt hmain hr⟩
  refine ⟨fun x y => Journal.reaches_iff hcopies, ?_, ?_⟩
  · intro e configuration he x hx ht
    obtain ⟨r, hr, harr⟩ := harrives e configuration he x hx ht
    refine ⟨r, hr, fun hops y htrail hne => ?_⟩
    cases harr hops y htrail with
    | start => exact absurd rfl hne
    | hop hp hpt hm hr' hcarry => exact ⟨⟨_, hp, hpt, hm⟩, _, _, hr', hcarry⟩
  · intro e configuration he x hx ht hops y htrail
    obtain ⟨r, -, harr⟩ := harrives e configuration he x hx ht
    exact (harr hops y htrail).countsHops hc hs hj

/-- A record that failed once carries one hop. -/
theorem run_carries_once :
    Container.once.Built ∧
    ⟨"orders", 0, 0⟩ ∈ (run .once (Fleet.failures 1)).fleet.published ∧
    ∃ h : Hop, h.note = ⟨some 0, some (Failure.new "error" "it failed")⟩ ∧
      (run .once (Fleet.failures 1)).Trail ⟨"orders", 0, 0⟩ [h] ⟨"orders-retry-0", 0, 0⟩ ∧
      ∃ r r' state, Carries ⟨"orders", 0, 0⟩ [h] r r' state := by
  have hpub : ⟨"orders", 0, 0⟩ ∈ (run .once (Fleet.failures 1)).fleet.published := by
    decide +kernel
  have hhop : (⟨⟨"g", ⟨"orders", 0, 0⟩, ⟨"orders-retry-0", 0, 0⟩⟩,
      ⟨some 0, some (Failure.new "error" "it failed")⟩⟩ : Hop) ∈
        (run .once (Fleet.failures 1)).hops := by
    decide +kernel
  have htrail := (Trail.nil (j := run .once (Fleet.failures 1)) (x := ⟨"orders", 0, 0⟩)).snoc
    hhop rfl
  obtain ⟨-, -, hcarriage⟩ := run_carries Container.built_once (Fleet.failures 1)
  obtain ⟨r, -, hall⟩ := hcarriage.carries
    { id := "orders", group := "g", topics := ["orders"] } .once (List.mem_singleton_self _) _
    hpub (List.mem_singleton_self _)
  obtain ⟨-, r', state, -, hcarries⟩ := hall _ _ htrail (List.cons_ne_nil _ _)
  exact ⟨Container.built_once, hpub, _, rfl, htrail, r, r', state, hcarries⟩

end Journal

end Redelivery
