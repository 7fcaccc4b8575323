import Redelivery.Proofs.Fleet.Rejections
import Redelivery.Proofs.RetryState.RoundTrip

/-!
# Fleet — where records come from

The headers of a record on a retry stage say where the record was before its first hop, by three
values (`Headers.origin?`).  What a worker makes of the record has an origin too, which is the same
if the headers say a whole retry state (`Record.carriedOrigin`).

**Origins** (`run_carriesOrigins`).  This is so for each copy that is published or about to be, and
for each dead letter that a handler is given.  A record that is given up because some other value is
missing or not legible does not keep its origin, even if the three values are there: its dead letter
says that it comes from where it lies, on the main topic (`run_losesOrigin_uncounted`).
-/

namespace Redelivery

/-- Where a record was before its first hop. -/
structure Origin where
  topic : String
  partition : Int32
  offset : Int64
  deriving Repr, DecidableEq

/-- The origin that a state has. -/
def RetryState.origin (s : RetryState) : Origin :=
  ⟨s.originalTopic, s.originalPartition, s.originalOffset⟩

/-- The origin that headers say, if its three values are there and legible. -/
def Headers.origin? (h : Headers) : Option Origin := do
  let topic ← h.text? RetryHeader.originalTopic.key
  let partition ← (h.text? RetryHeader.originalPartition.key).bind Decimal.readInt32?
  let offset ← (h.text? RetryHeader.originalOffset.key).bind Decimal.readInt64?
  return ⟨topic, partition, offset⟩

/-- The origin of a record that is given up for its headers, on a stage of a main topic. -/
def Record.ownOrigin (r : Record) (main : String) : Origin :=
  ⟨main, Int32.ofInt r.partition, Int64.ofInt r.offset⟩

/-- The origin of what is made of a record on a retry stage of a main topic. -/
def Record.carriedOrigin (r : Record) (main : String) : Origin :=
  match RetryState.read r.headers with
  | .ok (some state) => state.origin
  | _ => r.ownOrigin main

/-- What goes for the origins of records on retry stages. -/
structure Fleet.CarriesOrigins (c : Container) (moves : List Move) : Prop where
  /-- A copy that is about to be published. -/
  publishes : ∀ (i : Nat) (d : Desk) (r : Record) (copy : Outgoing) (more : Nat),
    (run c moves).desks[i]? = some d → d.worker.phase = .publishing r copy more →
    d.worker.stage.isMain = false →
    copy.headers.origin? = some (r.carriedOrigin (d.worker.mainTopic r))
  /-- A dead letter that a handler is given. -/
  buries : ∀ (i : Nat) (d : Desk) (s : Surroundings) (handler : DeadLetterHandler)
    (letter : DeadLetter) (answer : Except DeadLetterError Unit),
    (run c moves).desks[i]? = some d →
    .buried handler letter answer ∈ (d.worker.step s (run c moves).broker).events →
    d.worker.stage.isMain = false → d.worker.record? = some letter.record ∧
      letter.state.origin = letter.record.carriedOrigin (d.worker.mainTopic letter.record)
  /-- A copy that was published. -/
  copies : ∀ p ∈ c.posts, p.stage.role.isRetry = true → ∀ a ∈ (run c moves).copies,
    a.source.topic = p.topic → ∃ r r', (run c moves).broker.recordAt? a.source = some r ∧
      (run c moves).broker.recordAt? a.target = some r' ∧
      r'.headers.origin? = some (r.carriedOrigin p.main)
  /-- The origin that a record's headers say is kept if they say a whole state, or if it is that of
  a record that is given up anyway. -/
  keeps : ∀ (r : Record) (main : String) (o : Origin), r.headers.origin? = some o →
    (r.carriedOrigin main = o ↔ ¬ r.headers.Illegible ∨ o = r.ownOrigin main)

/-! ### Origins -/

theorem Headers.origin?_of_read {h : Headers} {s : RetryState}
    (hread : RetryState.read h = .ok (some s)) : h.origin? = some s.origin := by
  have ht := RetryState.read_eq_ok_some_iff.mp hread
  simp only [origin?, ht.originalTopic, ht.originalPartition, ht.originalOffset,
    Option.bind_eq_bind, Option.bind_some]
  rfl

namespace Record

variable {r : Record} {main : String}

theorem carriedOrigin_of_read {s : RetryState} (h : RetryState.read r.headers = .ok (some s)) :
    r.carriedOrigin main = s.origin := by
  rw [carriedOrigin, h]

theorem carriedOrigin_of_illegible (h : r.headers.Illegible) :
    r.carriedOrigin main = r.ownOrigin main := by
  unfold carriedOrigin
  split
  · rename_i state hread
    exact absurd hread (h state)
  · rfl

/-- **The origin that a record's headers say** is kept just when they say a whole state, or by
chance. -/
theorem carriedOrigin_eq_iff {o : Origin} (ho : r.headers.origin? = some o) :
    r.carriedOrigin main = o ↔ ¬ r.headers.Illegible ∨ o = r.ownOrigin main := by
  by_cases hill : r.headers.Illegible
  · rw [carriedOrigin_of_illegible hill]
    simp [hill, eq_comm]
  · obtain ⟨state, hread⟩ := Headers.not_illegible_iff.mp hill
    have hsome := (Headers.origin?_of_read hread).symm.trans ho
    rw [carriedOrigin_of_read hread]
    simp [hill, Option.some.inj hsome]

end Record

theorem RetryState.Rejected.origin_eq {s : RetryState} {r : Record} {main : String}
    (h : s.Rejected r main) : s.origin = r.ownOrigin main := by
  rw [RetryState.origin, h.originalTopic, h.originalPartition, h.originalOffset]
  rfl

/-! ### Workers -/

namespace Worker

variable {w : Worker} {s : Surroundings} {b : Broker} {handler : DeadLetterHandler}
  {letter letter' : DeadLetter} {answer : Except DeadLetterError Unit}

/-- A handler is given the dead letter that a record was made into. -/
theorem eq_of_buried {c : Configuration} {events : List WorkerEvent}
    (h : c.FailsToBury letter events ∨ c.Buries letter events)
    (he : .buried handler letter' answer ∈ events) : letter' = letter := by
  rcases h with h | h
  · cases h with
    | unhandled => cases he
    | refused => simp_all
  · cases h <;> simp_all

theorem eq_of_mem_giveUp (letter : DeadLetter) {stage : Stage}
    (hd : letter.destination = stage.topicFor (w.mainTopic letter.record))
    (he : .buried handler letter' answer ∈
      (w.giveUp s letter.record stage letter.state letter.failure letter.reason).2) :
    letter' = letter :=
  eq_of_buried ((w.giveUp_cases s hd).imp And.left And.left) he

theorem letter_of_opening {r : Record} (hp : w.phase = .opening r)
    (he : .buried handler letter answer ∈ (w.step s b).events) :
    letter.record = r ∧ ∃ violation, w.stateOf s.clock.now r = .error violation ∧
      letter.state.Rejected r (w.mainTopic r) := by
  cases hstate : w.stateOf s.clock.now r with
  | error violation =>
      rw [(step_opening_of_error hp hstate).2] at he
      rcases w.reject_cases s r violation with ⟨letter', stage, h, hnext⟩ | ⟨-, hnext⟩
      · obtain rfl : letter = letter' := eq_of_buried (hnext.imp And.left And.left) he
        exact ⟨h.record, violation, rfl, h.state⟩
      · rw [hnext] at he
        cases he
  | ok state =>
      -- nothing is given up before the record was handed over
      rw [step_opening hp, stepOpening, hstate] at he
      dsimp only at he
      split at he
      · cases he
      · split at he <;> cases he

theorem letter_of_handling {r : Record} {state : RetryState} (hp : w.phase = .handling r state)
    (he : .buried handler letter answer ∈ (w.step s b).events) :
    letter.record = r ∧ ∃ f due, letter.state = state.nextHop f due := by
  rw [events_handling hp] at he
  simp only [stepHandling] at he
  rcases List.mem_cons.mp he with he | he
  · cases he
  · split at he
    · cases he
    · rename_i f hf
      unfold routeFailure at he
      dsimp only at he
      split at he
      · cases he
      · rename_i stage reason hroute
        obtain rfl := eq_of_mem_giveUp
          ⟨r, state.nextHop f s.clock.now, f, reason, stage.topicFor (w.mainTopic r)⟩ rfl he
        exact ⟨rfl, f, _, rfl⟩
      · cases he

/-- **A dead letter that a handler is given** has the state of its record after one more attempt, or
it was given up for its headers. -/
theorem letter_of_buried (he : .buried handler letter answer ∈ (w.step s b).events) :
    (∃ state f due, w.phase = .handling letter.record state ∧
      letter.state = state.nextHop f due) ∨
    ∃ violation, w.phase = .opening letter.record ∧
      w.stateOf s.clock.now letter.record = .error violation ∧
      letter.state.Rejected letter.record (w.mainTopic letter.record) := by
  have hdoes := w.does_step s b
  cases hdoes with
  | rest _ _ _ he' | take _ _ _ he' | prepare _ _ _ he' _ | interrupt _ _ _ he' _
  | publish _ _ _ he' _ | commit _ _ _ he' | giveBack _ _ _ he' | leave _ _ _ he' =>
      rw [he'] at he
      cases he
  | decide hearly _ _ =>
      generalize hp : w.phase = p at hearly
      cases hearly with
      | opening =>
          obtain ⟨rfl, violation, hstate, h⟩ := letter_of_opening hp he
          exact .inr ⟨violation, rfl, hstate, h⟩
      | waiting =>
          rw [(quiet_of_isWaiting (by rw [hp]; rfl)).2] at he
          cases he
      | handling =>
          obtain ⟨rfl, f, due, h⟩ := letter_of_handling hp he
          exact .inl ⟨_, f, due, rfl, h⟩

/-- What a worker on a retry stage cannot read the state of. -/
theorem illegible_of_stateOf {r : Record} {t : Instant} {violation : HeaderError}
    (hmain : w.stage.isMain = false) (h : w.stateOf t r = .error violation) :
    r.headers.Illegible := by
  intro state hread
  rw [(stateOf_of_not_isMain hmain t).mpr hread] at h
  cases h

end Worker

namespace Desk

variable {d : Desk} {n : Note} {r : Record}

/-- **A copy** that a worker on a retry stage is about to publish. -/
theorem origin_publishing (hn : Noted d.worker n d.worker.phase) (hc : d.Contained)
    {copy : Outgoing} {more : Nat} (hp : d.worker.phase = .publishing r copy more)
    (hmain : d.worker.stage.isMain = false) :
    copy.headers.origin? = some (r.carriedOrigin (d.worker.mainTopic r)) := by
  by_cases hill : r.headers.Illegible
  · have hrej := hc r ⟨congrArg Phase.record? hp, hmain, hill⟩
    rw [hp] at hrej
    cases hrej with
    | publishing h _ _ =>
        obtain ⟨next, hread, hrejected⟩ := h.written r.headers
        rw [Record.carriedOrigin_of_illegible hill, ← hrejected.origin_eq]
        exact Headers.origin?_of_read hread
  · obtain ⟨state, hread⟩ := Headers.not_illegible_iff.mp hill
    rw [hp] at hn
    cases hn with
    | free h => cases h
    | @publishing _ _ _ t f hcopies =>
        obtain ⟨stage, topic, due, rfl⟩ :=
          hcopies state ((Worker.stateOf_of_not_isMain hmain t).mpr hread)
        have hnext := Headers.origin?_of_read (state.read_nextHop f due r.headers)
        rw [Record.carriedOrigin_of_read hread]
        exact hnext

/-- **A dead letter** that a worker on a retry stage gives to a handler. -/
theorem origin_buried (hn : Noted d.worker n d.worker.phase)
    (hmain : d.worker.stage.isMain = false) {s : Surroundings} {b : Broker}
    {handler : DeadLetterHandler} {letter : DeadLetter} {answer : Except DeadLetterError Unit}
    (he : .buried handler letter answer ∈ (d.worker.step s b).events) :
    d.worker.record? = some letter.record ∧
      letter.state.origin = letter.record.carriedOrigin (d.worker.mainTopic letter.record) := by
  rcases Worker.letter_of_buried he with ⟨state, f, due, hp, hstate⟩ | ⟨violation, hp, hstate, h⟩
  · have hr : d.worker.record? = some letter.record := congrArg Phase.record? hp
    obtain ⟨t, ht⟩ := Journal.exists_stateOf hn hr (congrArg Phase.state? hp)
    refine ⟨hr, ?_⟩
    rw [Record.carriedOrigin_of_read ((Worker.stateOf_of_not_isMain hmain t).mp ht), hstate]
    rfl
  · refine ⟨congrArg Phase.record? hp, ?_⟩
    rw [Record.carriedOrigin_of_illegible (Worker.illegible_of_stateOf hmain hstate), h.origin_eq]

end Desk

/-! ### Runs -/

namespace Fleet

variable {c : Container} {moves : List Move}

theorem noted_run (c : Container) (moves : List Move) {i : Nat} {d : Desk}
    (hd : (run c moves).desks[i]? = some d) : ∃ n, Noted d.worker n d.worker.phase :=
  ⟨_, (Journal.faithful_run c moves).noted ((Journal.fleet_run c moves).symm ▸ hd)⟩

/-- **Origins**, whatever the workers of a container do and in whatever order. -/
theorem run_carriesOrigins (hc : c.Built) (moves : List Move) : CarriesOrigins c moves where
  publishes i d r copy more hd hp hmain := by
    obtain ⟨n, hn⟩ := noted_run c moves hd
    exact Desk.origin_publishing hn (contained_run c moves i d hd) hp hmain
  buries i d s handler letter answer hd he hmain := by
    obtain ⟨n, hn⟩ := noted_run c moves hd
    exact Desk.origin_buried hn hmain he
  copies p hpost hretry a ha ht := by
    obtain @⟨i, s, d, r, copy, more, now, hacted, hp, hsource, -, htarget⟩ :=
      published_run c moves a ha
    obtain ⟨earlier, later, -, hd⟩ := hacted
    have hat := (sound_run c earlier).at_post hc hd (congrArg Phase.record? hp) hpost
      (ht.symm.trans (Broker.topic_of_recordAt? hsource).symm)
    have hmain : d.worker.stage.isMain = false := hat.stage ▸ Stage.isMain_of_isRetry hretry
    obtain ⟨n, hn⟩ := noted_run c earlier hd
    refine ⟨r, _, hsource, htarget, ?_⟩
    rw [hat.main]
    exact Desk.origin_publishing hn (contained_run c earlier i d hd) hp hmain
  keeps r main o ho := Record.carriedOrigin_eq_iff ho

/-- A record with headers that say a whole state keeps its origin. -/
theorem run_carriesOrigins_worn :
    Container.kept.Built ∧ CarriesOrigins .kept (stray .worn) ∧
    ∃ a ∈ (run .kept (stray .worn)).copies, a.source = ⟨"orders-retry-0", 0, 0⟩ ∧
      ∃ r', (run .kept (stray .worn)).broker.recordAt? a.target = some r' ∧
        r'.headers.origin? = some ⟨"orders", 2, 41⟩ := by
  have hcarries := run_carriesOrigins Container.built_kept (stray .worn)
  have hcopy : (⟨"g-retry-0", ⟨"orders-retry-0", 0, 0⟩, ⟨"orders-dlt", 0, 0⟩⟩ : Copy) ∈
      (run .kept (stray .worn)).copies := by
    decide +kernel
  obtain ⟨r, r', hsource, htarget, ho⟩ := hcarries.copies
    ⟨{ id := "orders", group := "g", topics := ["orders"] }, .kept, "orders",
      (Plan.kept.chainSpec .empty).stage [1000] "-retry-0" 1000 .retry none⟩
    (Container.mem_posts.mpr
      ⟨List.mem_singleton_self _, List.mem_singleton_self _, by decide +kernel⟩)
    rfl _ hcopy (by decide +kernel)
  have hread : RetryState.read r.headers = .ok (some .worn) := by
    have hworn : ((run .kept (stray .worn)).broker.recordAt? ⟨"orders-retry-0", 0, 0⟩).map
        Record.headers = some .worn := by
      decide +kernel
    obtain ⟨r₀, hr₀, hheaders⟩ := Option.map_eq_some_iff.mp hworn
    obtain rfl : r₀ = r := Option.some.inj (hr₀.symm.trans hsource)
    rw [hheaders]
    decide +kernel
  rw [Record.carriedOrigin_of_read hread] at ho
  exact ⟨Container.built_kept, hcarries, _, hcopy, rfl, r', htarget, ho⟩

/-- A record whose headers say its origin, and not how often it was attempted, does not keep its
origin: its dead letter says that it comes from where it lies. -/
theorem run_losesOrigin_uncounted :
    ∃ a ∈ (run .kept (stray uncounted)).copies,
      ((run .kept (stray uncounted)).broker.recordAt? a.source).bind (·.headers.origin?) =
        some ⟨"orders", 3, 41⟩ ∧
      ((run .kept (stray uncounted)).broker.recordAt? a.target).bind (·.headers.origin?) =
        some ⟨"orders", 0, 0⟩ :=
  ⟨⟨"g-retry-0", ⟨"orders-retry-0", 0, 0⟩, ⟨"orders-dlt", 0, 0⟩⟩, by decide +kernel⟩

end Fleet

end Redelivery
