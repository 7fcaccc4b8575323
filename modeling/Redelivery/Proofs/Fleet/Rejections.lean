import Redelivery.Proofs.Fleet.Provenance
import Redelivery.Proofs.Route.DeadLetters
import Redelivery.Proofs.Worker.Rejections

/-!
# Fleet — records that say no state

Anybody can publish to a retry topic, and so a worker of a retry stage may be handed a record whose
headers say no retry state (`Fleet.Unreadable`).

**Containment** (`run_contains`).  Such a record is never handed to the user's code and never
retried.  It is given up: its dead letter, with a state that is always legible, goes to the handler
or to the dead-letter topic of the failure, once.  The worker then acknowledges the record, unless
the copy could not be published; nothing was published of it then, and its group is handed it again.
-/

namespace Redelivery

/-- The copy is the dead letter of the record `r` of a post. -/
structure Copy.Replaces (c : Container) (b : Broker) (p : Post) (r r' : Record)
    (letter : DeadLetter) (stage : Stage) (a : Copy) : Prop where
  rejects : p.configuration.Rejects p.main r letter stage
  /-- No handler has taken it. -/
  unburied : ∃ events, p.configuration.FailsToBury letter events
  topic : a.target.topic = letter.destination
  isDeadLetter : ∀ q ∈ c.posts, q.topic = a.target.topic → q.stage.role.isDeadLetter = true
  record : b.recordAt? a.target = some r'
  /-- Its headers say the state of the dead letter, whatever those of the record said. -/
  read : ∃ state, RetryState.read r'.headers = .ok (some state) ∧ state.Rejected r p.main
  foreign : r'.headers.foreign = r.headers.foreign
  key : r'.key = r.key
  payload : r'.payload = r.payload

/-- A retry stage is not the main one. -/
theorem Stage.isMain_of_isRetry {s : Stage} (h : s.role.isRetry = true) : s.isMain = false := by
  refine decide_eq_false fun e => ?_
  rw [e] at h
  cases h

/-- The worker that makes a step, if a move is one. -/
def Move.actor? : Move → Option Nat
  | .work i _ => some i
  | _ => none

namespace Fleet

/-- The record at a place on a retry stage has headers that say no retry state. -/
structure Unreadable (c : Container) (f : Fleet) (p : Post) (x : Place) (r : Record) : Prop where
  mem : p ∈ c.posts
  isRetry : p.stage.role.isRetry = true
  topic : p.topic = x.topic
  record : f.broker.recordAt? x = some r
  illegible : r.headers.Illegible

/-- How a worker lets go of a record that it gives up, in its next step. -/
inductive LetsGo (f : Fleet) (i : Nat) (s : Surroundings) (d : Desk) (r : Record) : Prop where
  /-- The record is acknowledged. -/
  | acknowledged (hp : d.worker.phase = .committing r)
      (hgain : f.broker.gained (f.work i s).broker = [])
      (hack : ((f.work i s).broker.cursor
        ⟨d.worker.consumer.group, r.topic, r.partition⟩).committed = r.offset + 1)
  /-- Its dead letter could not be published, and nothing was; it is the next record that the group
  is handed. -/
  | returned {topic : String} {e : BrokerError}
      (hp : d.worker.phase = .returning r (.republish topic e))
      (hcopies : d.dispatch.copies = []) (hgain : f.broker.gained (f.work i s).broker = [])
      (hnext : ∀ consumer : Consumer, consumer.group = d.worker.consumer.group → ∃ e,
        (⟨consumer, (f.work i s).broker⟩ : Membership).available? r.topic r.partition.toNat =
          some (r.offset, e) ∧ r = Broker.recordOf r.topic r.partition.toNat r.offset.toNat e)

/-- What becomes of the records on retry stages whose headers say no retry state. -/
structure Contains (c : Container) (moves : List Move) : Prop where
  /-- The user's code is not given them. -/
  handled : ∀ (i : Nat) (d : Desk) (s : Surroundings) (r : Record) (time : Instant)
    (failure : Option Failure), (run c moves).desks[i]? = some d →
    .handled r time failure ∈ (d.worker.step s (run c moves).broker).events →
    d.worker.stage.isMain = false → ¬ r.headers.Illegible
  /-- They are given up, at any time. -/
  contained : ∀ (i : Nat) (d : Desk), (run c moves).desks[i]? = some d → d.Contained
  /-- The stage for them is the one that receives failures of this kind. -/
  receives : ∀ p ∈ c.posts, ∀ r letter stage, p.configuration.Rejects p.main r letter stage →
    p.configuration.chain.Receives p.configuration.chain.main.routing.rules letter.failure.levels
      stage
  /-- A try to publish succeeds and adds one entry to one log, or fails and adds none to any. -/
  publishes : ∀ (i : Nat) (d : Desk) (s : Surroundings) (r : Record) (copy : Outgoing) (more : Nat),
    (run c moves).desks[i]? = some d → d.worker.phase = .publishing r copy more →
    (∃ y : Place, ((run c moves).broker.publish s.clock.now copy).1 = .ok () ∧
      (run c moves).broker.gained ((run c moves).work i s).broker = [y] ∧ y.topic = copy.topic ∧
      (d.worker.step s (run c moves).broker).worker.phase = .committing r) ∨
    ∃ e, ((run c moves).broker.publish s.clock.now copy).1 = .error e ∧
      (run c moves).broker.gained ((run c moves).work i s).broker = [] ∧
      ((∃ less < more, (d.worker.step s (run c moves).broker).worker.phase =
          .publishing r copy less) ∨
        (d.worker.step s (run c moves).broker).worker.phase =
          .returning r (.republish copy.topic e))
  /-- A worker that goes on to make steps lets go of the record. -/
  letsGo : ∀ (i : Nat) (d : Desk) (r : Record), (run c moves).desks[i]? = some d →
    d.Confronts r → ∀ after : List Move,
    d.worker.phase.stepsLeft d.worker.republishTries ≤ after.countP (·.actor? = some i) →
    ∃ before s rest d', after = before ++ .work i s :: rest ∧
      (run c (moves ++ before)).desks[i]? = some d' ∧ d'.Confronts r ∧
      LetsGo (run c (moves ++ before)) i s d' r
  /-- A copy of the record is its dead letter, and there is no other. -/
  copies : ∀ p x r, Unreadable c (run c moves) p x r → ∀ a ∈ (run c moves).copies, a.source = x →
    (∃ r' letter stage, a.Replaces c (run c moves).broker p r r' letter stage) ∧
      ∀ b ∈ (run c moves).copies, b.source = x → b = a
  /-- The record is settled without a copy if a handler took it or the chain has no dead letters. -/
  settled : ∀ p x r, Unreadable c (run c moves) p x r → ∀ k ∈ (run c moves).settled, k.place = x →
    x ∉ (run c moves).copies.map Copy.source ∧ k.record = r ∧
      ((∃ letter stage, p.configuration.Rejects p.main r letter stage ∧
        p.configuration.Buries letter k.dispatch.events) ∨
      (p.configuration.chain.deadLetter? = none ∧ k.dispatch.events = []))
  /-- One of the two goes for every such record that is acknowledged. -/
  acknowledged : ∀ p x r, Unreadable c (run c moves) p x r →
    (run c moves).broker.Acknowledged p.group x →
    (∃ a ∈ (run c moves).copies, a.source = x) ∨ ∃ k ∈ (run c moves).settled, k.place = x

end Fleet

/-! ### Dead letters -/

/-- **The stage for records whose headers say no state** is the one that receives failures of their
kind. -/
theorem Configuration.Planned.receives {x : Configuration} (hx : x.Planned) {main : String}
    {r : Record} {letter : DeadLetter} {stage : Stage} (h : x.Rejects main r letter stage) :
    x.chain.Receives x.chain.main.routing.rules letter.failure.levels stage := by
  obtain ⟨plan, draw, hplan⟩ := hx
  obtain ⟨routing, hrouting, hbuild⟩ := Plan.chainSpec_build hplan
  obtain ⟨rfl, hrules⟩ := Routing.ofList_eq_ok_iff.mp hrouting
  have hmain : x.chain.main.routing.rules = plan.routing := by
    rw [(ChainSpec.build_eq_ok hbuild).2.2.1]
    rfl
  -- the failure has one level, which is looked at in any case
  have hlevels : letter.failure.lookedAt x.resolver.classifier.traverse =
      letter.failure.levels := by
    have hcauses : letter.failure.causes = [] := by
      simpa [Failure.kinds, Failure.levels] using congrArg List.tail h.failure
    simp [Failure.lookedAt, Failure.levels, hcauses]
  cases hk : (plan.chainSpec ⟨plan.routing⟩).keepsDeadLetters with
  | true =>
      obtain ⟨stage', hroute, hreceives⟩ := Resolver.receives_deadLetterFor hbuild rfl hrules
        x.resolver.classifier x.resolver.timeout letter.failure .missingRetryHeaders hk
      obtain ⟨rfl, -⟩ := Route.deadLetter.inj (hroute.symm.trans h.route)
      rw [hmain, ← hlevels]
      exact hreceives
  | false =>
      -- a chain without dead letters discards
      have hroute := Resolver.giveUp_eq_discard hbuild x.resolver.classifier x.resolver.timeout
        letter.failure .missingRetryHeaders hk
      cases hroute.symm.trans h.route

namespace Fleet

variable {c : Container} {f : Fleet} {moves : List Move} {i : Nat} {s : Surroundings} {d : Desk}
  {p : Post} {x : Place} {r : Record}

/-! ### Workers -/

/-- **Every worker** gives up the records whose headers say no state. -/
theorem contained_run (c : Container) (moves : List Move) (i : Nat) (d : Desk)
    (hd : (run c moves).desks[i]? = some d) : d.Contained := by
  refine desks_induction (P := fun _ _ d => d.Contained) ?start ?work ?other moves i d hd
  case start =>
    intro moves i w hw
    refine Desk.contained_of_no_record ?_
    rw [Worker.record?, (Container.mem_start hw).2.1]
    rfl
  case work =>
    intro moves i d s hd h
    obtain ⟨history, hsession⟩ := (sound_run c moves).session
    exact h.step ((sound_run c moves).orderly hd) hsession.regular s
  case other => exact fun moves i d m hm h => h

/-- The record of a worker on a retry stage. -/
theorem Unreadable.confronts (hu : Unreadable c (run c moves) p x r) (hc : c.Built)
    {earlier : List Move} (hd : (run c earlier).desks[i]? = some d)
    (hr : d.worker.record? = some r) : d.Confronts r ∧ d.worker.At c r p := by
  have hat := (sound_run c earlier).at_post hc hd hr hu.mem
    (hu.topic.trans (Broker.topic_of_recordAt? hu.record).symm)
  refine ⟨⟨hr, ?_, hu.illegible⟩, hat⟩
  rw [← hat.stage]
  exact Stage.isMain_of_isRetry hu.isRetry

/-! ### Letting go -/

theorem getElem?_move (hd : f.desks[i]? = some d) {m : Move} (hm : m.actor? ≠ some i) :
    (f.move c m).desks[i]? = some d := by
  cases m with
  | publish _ _ | create _ | refuse _ => exact hd
  | start =>
      simp only [move]
      rw [List.getElem?_append_left (List.getElem?_eq_some_iff.mp hd).1, hd]
  | work j s =>
      change (f.work j s).desks[i]? = some d
      cases hj : f.desks[j]? with
      | none => rwa [work_of_none hj]
      | some x =>
          rw [work_eq hj]
          refine (Session.member_set hj).mpr (.inr ⟨?_, hd⟩)
          rintro rfl
          exact hm rfl

/-- A worker that gives its record up lets go of it in its next step, or has fewer steps left. -/
theorem letsGo_or_goesOn (hd : (run c moves).desks[i]? = some d) (h : d.Confronts r)
    (s : Surroundings) :
    LetsGo (run c moves) i s d r ∨
      (d.step s (run c moves).broker).Confronts r ∧
        (d.step s (run c moves).broker).worker.phase.stepsLeft
            (d.step s (run c moves).broker).worker.republishTries <
          d.worker.phase.stepsLeft d.worker.republishTries := by
  have hs := sound_run c moves
  obtain ⟨history, hsession⟩ := hs.session
  have hrej := contained_run c moves i d hd r h
  rcases Desk.Rejecting.step (hs.orderly hd) hsession.regular h hrej s with
    ⟨hone, -⟩ | ⟨hnext, hless⟩
  · left
    generalize hp : d.worker.phase = p at hrej hone
    cases hrej with
    | opening _ | publishing _ _ _ => simp [Phase.stepsLeft] at hone
    | published _ _ _ _ | buried _ _ _ | discarded _ _ _ =>
        obtain ⟨hgain, hack⟩ := hs.accepts hd hp s
        exact .acknowledged hp hgain hack
    | returning _ _ _ =>
        obtain ⟨hcopies, hgain, hcur, hk⟩ := hs.returns hd hp s
        exact .returned hp hcopies hgain fun consumer hg => available?_eq hk (hg ▸ hcur)
  · right
    refine ⟨⟨hnext.record?, ?_, h.illegible⟩, ?_⟩
    · rw [Desk.step, Worker.stage_step]
      exact h.isMain
    · rw [Desk.step, Worker.republishTries_step]
      exact hless

/-- **A worker that goes on to make steps** lets go of a record that it gives up. -/
theorem letsGo_run (hd : (run c moves).desks[i]? = some d) (h : d.Confronts r) (after : List Move)
    (hsteps : d.worker.phase.stepsLeft d.worker.republishTries ≤
      after.countP (·.actor? = some i)) :
    ∃ before s rest d', after = before ++ .work i s :: rest ∧
      (run c (moves ++ before)).desks[i]? = some d' ∧ d'.Confronts r ∧
      LetsGo (run c (moves ++ before)) i s d' r := by
  induction after generalizing moves d with
  | nil =>
      have hpos := (contained_run c moves i d hd r h).stepsLeft_pos d.worker.republishTries
      rw [List.countP_nil] at hsteps
      omega
  | cons m after ih =>
      -- what follows the move is found by the induction, or else it is the move that lets go
      have later : ∀ d', (run c (moves ++ [m])).desks[i]? = some d' → d'.Confronts r →
          d'.worker.phase.stepsLeft d'.worker.republishTries ≤
            after.countP (·.actor? = some i) →
          ∃ before s rest d', m :: after = before ++ .work i s :: rest ∧
            (run c (moves ++ before)).desks[i]? = some d' ∧ d'.Confronts r ∧
            LetsGo (run c (moves ++ before)) i s d' r := by
        intro d' hd' h' hsteps'
        obtain ⟨before, s, rest, x, rfl, hx, hconf, hlets⟩ := ih hd' h' hsteps'
        rw [List.append_assoc] at hx hlets
        exact ⟨m :: before, s, rest, x, rfl, hx, hconf, hlets⟩
      rw [List.countP_cons] at hsteps
      by_cases hm : m.actor? = some i
      · cases m with
        | work j s =>
            obtain rfl : j = i := Option.some.inj hm
            rcases letsGo_or_goesOn hd h s with hlets | ⟨h', hless⟩
            · exact ⟨[], s, after, d, rfl, by rwa [List.append_nil], h, by rwa [List.append_nil]⟩
            · refine later _ ?_ h' ?_
              · rw [run_concat]
                change ((run c moves).work j s).desks[j]? = _
                rw [work_eq hd]
                exact (Session.member_set hd).mpr (.inl ⟨rfl, rfl⟩)
              · simp only [hm, decide_true, if_true] at hsteps
                omega
        | publish _ _ | create _ | refuse _ | start => cases hm
      · refine later d ?_ h (by simpa [hm] using hsteps)
        rw [run_concat]
        exact getElem?_move hd hm

/-! ### What is noted -/

/-- **A copy** of a record whose headers say no state is its dead letter. -/
theorem Unreadable.replaces (hu : Unreadable c (run c moves) p x r) (hc : c.Built) {a : Copy}
    (ha : a ∈ (run c moves).copies) (hx : a.source = x) :
    ∃ r' letter stage, a.Replaces c (run c moves).broker p r r' letter stage := by
  obtain @⟨i, s, d, r₀, copy, more, now, hacted, hp, hsource, ht, htarget⟩ :=
    published_run c moves a ha
  obtain ⟨earlier, later, -, hd⟩ := hacted
  rw [hx, hu.record] at hsource
  obtain rfl : r = r₀ := Option.some.inj hsource
  obtain ⟨hconf, hat⟩ := hu.confronts hc hd (congrArg Phase.record? hp)
  have hrej := contained_run c earlier i d hd r hconf
  rw [← hat.configuration, ← hat.main, hp] at hrej
  cases hrej with
  | @publishing letter stage _ h he hcopies =>
      obtain ⟨hs, hdead⟩ := h.mem_stages
      obtain ⟨next, hread, hrejected⟩ := h.written r.headers
      refine ⟨_, letter, stage, {
        rejects := h
        unburied := ⟨_, he⟩
        topic := ht
        isDeadLetter := fun q hq htopic => ?_
        record := htarget
        read := ⟨next, hread, hrejected⟩
        foreign := RetryState.foreign_apply _ _
        key := rfl
        payload := rfl }⟩
      -- the topic of the dead letter is that of one post
      obtain ⟨hmem, hm, -⟩ := Container.mem_posts.mp hat.mem
      have hpost : { p with stage } ∈ c.posts := Container.mem_posts.mpr ⟨hmem, hm, hs⟩
      have hstage : q = { p with stage } :=
        hc.eq_of_topic hq hpost (htopic.trans (ht.trans h.destination))
      rw [hstage]
      exact hdead

/-- **A settlement** of such a record. -/
theorem Unreadable.settled (hu : Unreadable c (run c moves) p x r) (hc : c.Built) {k : Settlement}
    (hk : k ∈ (run c moves).settled) (hx : k.place = x) :
    k.record = r ∧ ((∃ letter stage, p.configuration.Rejects p.main r letter stage ∧
        p.configuration.Buries letter k.dispatch.events) ∨
      (p.configuration.chain.deadLetter? = none ∧ k.dispatch.events = [])) := by
  obtain @⟨i, s, d, r₀, hacted, hp, hcopies, hr⟩ := settles_run c moves k hk
  obtain ⟨earlier, later, -, hd⟩ := hacted
  have hplace : r₀.place = x := hx
  rw [hplace, hu.record] at hr
  obtain rfl : r = r₀ := Option.some.inj hr
  obtain ⟨hconf, hat⟩ := hu.confronts hc hd (congrArg Phase.record? hp)
  have hrej := contained_run c earlier i d hd r hconf
  rw [← hat.configuration, ← hat.main, hp] at hrej
  refine ⟨rfl, ?_⟩
  cases hrej with
  | published _ _ hcopied _ =>
      rw [hcopies] at hcopied
      cases hcopied
  | buried h he _ => exact .inl ⟨_, _, h, he⟩
  | discarded h he _ => exact .inr ⟨h, he⟩

/-! ### Runs -/

/-- **Containment**, whatever the workers of a container do and in whatever order. -/
theorem run_contains (hc : c.Built) (moves : List Move) : Contains c moves where
  handled i d s r time failure hd hevent hmain hill := by
    obtain ⟨state, hp⟩ := Worker.handling_of_handled hevent
    have hconf : d.Confronts r := ⟨congrArg Phase.record? hp, hmain, hill⟩
    exact (contained_run c moves i d hd r hconf).ne_handling r state hp
  contained := contained_run c moves
  receives p hp r letter stage h :=
    (hc.bound.planned _ (Container.mem_posts.mp hp).1).receives h
  publishes i d s r copy more hd hp := by
    obtain ⟨history, hsession⟩ := (sound_run c moves).session
    rw [broker_work hd]
    exact Worker.publishing_attempt hsession.regular hp s
  letsGo i d r hd h after hsteps := letsGo_run hd h after hsteps
  copies p x r hu a ha hx :=
    ⟨hu.replaces hc ha hx, fun b hb hb' =>
      List.inj_on_of_nodup_map (ledger_run hc moves).once hb ha (hb'.trans hx.symm)⟩
  settled p x r hu k hk hx :=
    ⟨hx ▸ ((ledger_run hc moves).settled k hk).1, hu.settled hc hk hx⟩
  acknowledged p x r hu hack := by
    have hcons : p.stage.role.isConsumed = true := by
      rw [Role.isConsumed, Role.isDeadLetter_of_isRetry hu.isRetry]
      rfl
    simpa using (ledger_run hc moves).acknowledged p hu.mem hcons x hu.topic.symm hack

/-- Headers that say where a record comes from, but not how often it was attempted. -/
def uncounted : Headers where
  entries :=
    [(RetryHeader.originalTopic.key, Utf8.encode "orders"),
      (RetryHeader.originalPartition.key, Utf8.encode "3"),
      (RetryHeader.originalOffset.key, Utf8.encode "41"),
      (RetryHeader.attempts.key, Utf8.encode "many"),
      (RetryHeader.firstAttempt.key, Utf8.encode "0")]

/-- A record with the given headers is published to a retry topic, and the worker of the stage makes
the steps that it takes to give it up. -/
def stray (h : Headers) : List Move :=
  [.start, .publish 0 { topic := "orders-retry-0", headers := h }] ++
    List.replicate 5 (.work 1 failing)

/-- A record whose headers do not say how often it was attempted. -/
theorem run_contains_uncounted :
    Container.kept.Built ∧ Contains .kept (stray uncounted) ∧
    ∃ p r r' letter stage a, Unreadable .kept (run .kept (stray uncounted)) p
        ⟨"orders-retry-0", 0, 0⟩ r ∧
      a ∈ (run .kept (stray uncounted)).copies ∧ a.source = ⟨"orders-retry-0", 0, 0⟩ ∧
      a.Replaces .kept (run .kept (stray uncounted)).broker p r r' letter stage := by
  have hcontains := run_contains Container.built_kept (stray uncounted)
  have hread : RetryState.read uncounted = .error (.invalid .attempts "many") := by
    decide +kernel
  have hunreadable : Unreadable .kept (run .kept (stray uncounted))
      ⟨{ id := "orders", group := "g", topics := ["orders"] }, .kept, "orders",
        (Plan.kept.chainSpec .empty).stage [1000] "-retry-0" 1000 .retry none⟩
      ⟨"orders-retry-0", 0, 0⟩
      (Broker.recordOf "orders-retry-0" 0 0 ⟨none, none, uncounted, 0⟩) := {
    mem := Container.mem_posts.mpr
      ⟨List.mem_singleton_self _, List.mem_singleton_self _, by decide +kernel⟩
    isRetry := rfl
    topic := by decide +kernel
    record := by decide +kernel
    illegible := fun state h => by cases hread.symm.trans h }
  have hcopy : (⟨"g-retry-0", ⟨"orders-retry-0", 0, 0⟩, ⟨"orders-dlt", 0, 0⟩⟩ : Copy) ∈
      (run .kept (stray uncounted)).copies := by
    decide +kernel
  obtain ⟨⟨r', letter, stage, hreplaces⟩, -⟩ :=
    hcontains.copies _ _ _ hunreadable _ hcopy rfl
  exact ⟨Container.built_kept, hcontains, _, _, r', letter, stage, _, hunreadable, hcopy, rfl,
    hreplaces⟩

end Fleet

end Redelivery
