import Redelivery.Proofs.Broker.Log

/-!
# Broker — sessions of the members of groups

A session is a broker with any number of members of any groups (`Session`).  Its operations may
follow each other in any order (`Session.run`): records are published and topics created from
outside, and members join, look for a record, acknowledge or give back one that they hold, pause,
resume, show that they are alive and leave.  Beside what a consumer keeps itself, a `Member` lists
the records that it holds, and the session notes what happens to records, in order.

* `take_eq_none`, `take_eq_some`: what looking for a record does.
-/

namespace Redelivery

/-- A member of a group with the records that it holds: those that it took and has neither
acknowledged nor given back since. -/
structure Member where
  consumer : Consumer
  records : List Record := []
  deriving DecidableEq

/-- What happens to a record that was published. -/
inductive Deed where
  /-- A member takes it. -/
  | taken
  | acknowledged
  | givenBack
  deriving Repr, DecidableEq

/-- A deed of a member of a group. -/
structure Handling where
  group : String
  record : Record
  deed : Deed
  deriving DecidableEq

/-- The cursor of the group that a handling concerns. -/
def Handling.cursorId (h : Handling) : CursorId := ⟨h.group, h.record.topic, h.record.partition⟩

/-- What an operation of a member comes to. -/
structure Turn where
  member : Member
  broker : Broker
  handled : List Handling := []

namespace Member

/-- The cursor of the member's group for the partition of a record. -/
def cursorId (m : Member) (r : Record) : CursorId := ⟨m.consumer.group, r.topic, r.partition⟩

/-- A deed of the member. -/
def handling (m : Member) (deed : Deed) (r : Record) : Handling := ⟨m.consumer.group, r, deed⟩

/-- The member and the broker as the consumer sees them. -/
def membership (m : Member) (b : Broker) : Membership := ⟨m.consumer, b⟩

/-- A turn that changes the consumer and the broker, after which `records` are held. -/
def turn (x : Membership) (records : List Record) (handled : List Handling) : Turn :=
  ⟨⟨x.consumer, records⟩, x.broker, handled⟩

/-- Looks for a record. -/
def poll (m : Member) (b : Broker) : Turn :=
  match (m.membership b).take with
  | (some r, x) => turn x (m.records ++ [r]) [m.handling .taken r]
  | (none, x) => turn x m.records []

/-- Acknowledges a record that the member holds. -/
def commit (r : Record) (m : Member) (b : Broker) : Turn :=
  if r ∈ m.records then
    turn ((m.membership b).commit r.topic r.partition r.offset) (m.records.filter (· ≠ r))
      [m.handling .acknowledged r]
  else ⟨m, b, []⟩

/-- Gives back a record that the member holds. -/
def rewind (r : Record) (m : Member) (b : Broker) : Turn :=
  if r ∈ m.records then
    turn ((m.membership b).rewind r.topic r.partition r.offset) (m.records.filter (· ≠ r))
      [m.handling .givenBack r]
  else ⟨m, b, []⟩

/-- Stops taking records. -/
def pause (m : Member) (b : Broker) : Turn := turn (m.membership b).pause m.records []

/-- Goes on taking records. -/
def resume (m : Member) (b : Broker) : Turn := turn (m.membership b).resume m.records []

/-- Shows the broker that the member is alive. -/
def keepAlive (m : Member) (b : Broker) : Turn := turn (m.membership b).keepAlive m.records []

/-- Leaves the group and gives back all that is held. -/
def close (m : Member) (b : Broker) : Turn :=
  turn (m.membership b).close [] (m.records.map (m.handling .givenBack))

end Member

/-- What can happen in a session.  Members are named by their position. -/
inductive Operation where
  | publish (now : Instant) (r : Outgoing)
  | create (requests : List TopicRequest)
  | refuse (n : Nat)
  | join (group : String) (topics : List String)
  | poll (i : Nat)
  | commit (i : Nat) (r : Record)
  | rewind (i : Nat) (r : Record)
  | pause (i : Nat)
  | resume (i : Nat)
  | keepAlive (i : Nat)
  | close (i : Nat)

/-- The member that an operation is of. -/
def Operation.member? : Operation → Option Nat
  | .poll i | .commit i _ | .rewind i _ | .pause i | .resume i | .keepAlive i | .close i => some i
  | .publish .. | .create _ | .refuse _ | .join .. => none

/-- A broker, the members of all groups, and what has happened to records, in order. -/
structure Session where
  broker : Broker := .empty
  members : List Member := []
  history : List Handling := []

namespace Session

/-- The session after an operation of a member, if there is that member. -/
def act (s : Session) (i : Nat) (f : Member → Broker → Turn) : Session :=
  match s.members[i]? with
  | none => s
  | some m =>
      let t := f m s.broker
      { broker := t.broker, members := s.members.set i t.member, history := s.history ++ t.handled }

/-- The session after an operation.  A record that a member does not hold is neither acknowledged
nor given back by it. -/
def perform (s : Session) : Operation → Session
  | .publish now r => { s with broker := (s.broker.publish now r).2 }
  | .create requests => { s with broker := s.broker.createTopics requests }
  | .refuse n => { s with broker := s.broker.refuseNext n }
  | .join group topics =>
      match Consumer.join group topics with
      | .ok c => { s with members := s.members ++ [{ consumer := c }] }
      | .error _ => s
  | .poll i => s.act i Member.poll
  | .commit i r => s.act i (Member.commit r)
  | .rewind i r => s.act i (Member.rewind r)
  | .pause i => s.act i Member.pause
  | .resume i => s.act i Member.resume
  | .keepAlive i => s.act i Member.keepAlive
  | .close i => s.act i Member.close

/-- The session after operations that follow each other. -/
def performAll (s : Session) (ops : List Operation) : Session := ops.foldl perform s

/-- The session of a new broker after operations that follow each other. -/
def run (ops : List Operation) : Session := performAll {} ops

/-- Member `i` holds the record, whose partition its group sees under `id`. -/
def Holds (s : Session) (i : Nat) (id : CursorId) (r : Record) : Prop :=
  ∃ m, s.members[i]? = some m ∧ r ∈ m.records ∧ m.cursorId r = id

/-- What has happened to the records of a partition in a group. -/
def historyOf (s : Session) (id : CursorId) : List Handling :=
  s.history.filter (·.cursorId = id)

end Session

/-! ### Records of a broker -/

/-- The record is one of the broker's. -/
def Broker.Keeps (b : Broker) (r : Record) : Prop :=
  ∃ (p o : Nat) (e : Entry), (b.log r.topic p)[o]? = some e ∧ r = Broker.recordOf r.topic p o e

theorem Broker.Keeps.eq {b : Broker} {r r' : Record} (h : b.Keeps r) (h' : b.Keeps r')
    (ht : r.topic = r'.topic) (hp : r.partition = r'.partition) (ho : r.offset = r'.offset) :
    r = r' := by
  obtain ⟨p, o, e, he, hr⟩ := h
  obtain ⟨p', o', e', he', hr'⟩ := h'
  have hpp : p = p' := by
    rw [hr, hr'] at hp
    exact Int.ofNat_inj.mp hp
  have hoo : o = o' := by
    rw [hr, hr'] at ho
    exact Int.ofNat_inj.mp ho
  subst hpp hoo
  rw [ht, he'] at he
  rw [hr, hr', ht, Option.some.inj he]

theorem Broker.Keeps.entryAt? {b : Broker} {r : Record} (h : b.Keeps r) :
    (b.entryAt? r.place).isSome := by
  obtain ⟨p, o, e, he, hr⟩ := h
  rw [hr]
  simp [Broker.entryAt?, Record.place, Broker.recordOf, he]

/-- Every log of `b` is the beginning of that log of `b'`. -/
def Broker.Extends (b b' : Broker) : Prop := ∀ t p, b.log t p <+: b'.log t p

theorem Broker.Extends.refl (b : Broker) : b.Extends b := fun _ _ => List.prefix_rfl

theorem Broker.Extends.of_log_eq {b b' : Broker} (h : ∀ t p, b'.log t p = b.log t p) :
    b.Extends b' := fun t p => h t p ▸ List.prefix_rfl

theorem Broker.Extends.getElem? {b b' : Broker} (h : b.Extends b') {t : String} {p o : Nat}
    {e : Entry} (he : (b.log t p)[o]? = some e) : (b'.log t p)[o]? = some e := by
  obtain ⟨l, hl⟩ := h t p
  rw [← hl, List.getElem?_append_left (List.getElem?_eq_some_iff.mp he).1, he]

theorem Broker.extends_publish {b : Broker} (hb : b.Regular) (now : Instant) (r : Outgoing) :
    b.Extends (b.publish now r).2 := by
  rcases publish_cases hb now r with ⟨e, -, h⟩ | ⟨p, -, -, h⟩
  · exact .of_log_eq h
  · intro t q
    rw [h]
    split
    · rename_i htq
      obtain ⟨rfl, rfl⟩ := htq
      exact List.prefix_append _ _
    · exact List.prefix_rfl

theorem Broker.Keeps.mono {b b' : Broker} {r : Record} (hb : b.Extends b') (h : b.Keeps r) :
    b'.Keeps r := by
  obtain ⟨p, o, e, he, hr⟩ := h
  exact ⟨p, o, e, hb.getElem? he, hr⟩

namespace Broker

/-- The record at a place. -/
def recordAt? (b : Broker) (x : Place) : Option Record :=
  (b.entryAt? x).map (recordOf x.topic x.partition x.offset)

theorem Keeps.recordAt? {b : Broker} {r : Record} (h : b.Keeps r) :
    b.recordAt? r.place = some r := by
  obtain ⟨p, o, e, he, hr⟩ := h
  have hplace : r.place = ⟨r.topic, p, o⟩ := by
    rw [hr]
    rfl
  rw [Broker.recordAt?, hplace, Broker.entryAt?, he, Option.map_some, ← hr]

theorem Extends.recordAt? {b b' : Broker} (h : b.Extends b') {x : Place} {r : Record}
    (hr : b.recordAt? x = some r) : b'.recordAt? x = some r := by
  obtain ⟨e, he, rfl⟩ := Option.map_eq_some_iff.mp hr
  rw [Broker.recordAt?, entryAt?, h.getElem? he, Option.map_some]

/-- What a publication puts into a log. -/
theorem recordAt?_of_gained {b : Broker} (hb : b.Regular) {now : Instant} {copy : Outgoing}
    {y : Place} (hy : y ∈ b.gained (b.publish now copy).2) :
    (b.publish now copy).2.recordAt? y =
      some (recordOf y.topic y.partition y.offset (entryOf now copy)) := by
  rcases publish_cases hb now copy with ⟨e, -, hlog⟩ | ⟨p, -, -, hlog⟩
  · rw [gained_of_log_eq hlog] at hy
    cases hy
  · rw [gained_append (hb.publish now copy) hlog, List.mem_singleton] at hy
    subst hy
    rw [recordAt?, entryAt?, hlog, if_pos ⟨rfl, rfl⟩]
    simp

/-- A partition that something is in is one of its topic's. -/
theorem lt_partitionCount {b : Broker} {t : String} {p o : Nat} {e : Entry}
    (h : (b.log t p)[o]? = some e) : p < b.partitionCount t := by
  by_contra hlt
  rw [Broker.log, List.getElem?_eq_none (Nat.le_of_not_lt hlt)] at h
  cases h

end Broker

/-! ### Looking for a record -/

namespace Membership

/-- The members of a group on the same topics, which hold the same. -/
structure Alike (c c' : Consumer) : Prop where
  group : c'.group = c.group
  topics : c'.topics = c.topics
  held : c'.held = c.held

theorem mem_rotate {α : Type} {l : List α} {n : Nat} {a : α} : a ∈ rotate l n ↔ a ∈ l := by
  rw [rotate, List.mem_append, or_comm, ← List.mem_append, List.take_append_drop]

theorem mem_candidates {m : Membership} {t : String} {p : Nat} :
    (t, p) ∈ m.candidates ↔ t ∈ m.consumer.topics ∧ p < m.broker.partitionCount t := by
  simp [candidates]

/-- Nothing is taken: the broker stays as it is. -/
theorem take_eq_none {m m' : Membership} (h : m.take = (none, m')) :
    m'.broker = m.broker ∧ Alike m.consumer m'.consumer := by
  unfold take at h
  split at h
  · cases h
    exact ⟨rfl, rfl, rfl, rfl⟩
  · dsimp only at h
    split at h
    · cases h
    · cases h
      exact ⟨rfl, rfl, rfl, rfl⟩

/-- **A record is taken**: the next one of a partition of which the group holds none. -/
theorem take_eq_some {m m' : Membership} {r : Record} (h : m.take = (some r, m')) :
    ∃ (p : Nat) (e : Entry),
      let id := m.cursorId r.topic r.partition
      let c := m.broker.cursor id
      c.inFlight = false ∧ (m.broker.log r.topic p)[c.next.toNat]? = some e ∧
      r = Broker.recordOf r.topic p c.next.toNat e ∧ r.topic ∈ m.consumer.topics ∧
      m'.broker = m.broker.setCursor id { c with next := c.next + 1, inFlight := true } ∧
      m'.consumer.group = m.consumer.group ∧ m'.consumer.topics = m.consumer.topics ∧
      m'.consumer.held = m.consumer.held ++ [(r.topic, r.partition)] := by
  unfold take at h
  split at h
  · cases h
  · dsimp only at h
    split at h
    · rename_i r' hr'
      cases h
      obtain ⟨⟨t, p⟩, hmem, hav⟩ := List.exists_of_findSome?_eq_some hr'
      obtain ⟨⟨offset, e⟩, hoe, rfl⟩ := Option.map_eq_some_iff.mp hav
      obtain ⟨ht, -⟩ := mem_candidates.mp (mem_rotate.mp hmem)
      unfold available? at hoe
      dsimp only at hoe
      split at hoe
      · cases hoe
      · rename_i hfree
        obtain ⟨e', he', heq⟩ := Option.map_eq_some_iff.mp hoe
        cases heq
        exact ⟨_, e, Bool.eq_false_iff.mpr hfree, he', rfl, ht, rfl, rfl, rfl, rfl⟩
    · cases h

/-- A record that is taken was to be had from one of the member's partitions. -/
theorem available?_of_take {m m' : Membership} {r : Record} (h : m.take = (some r, m')) :
    ∃ p o e, (r.topic, p) ∈ m.candidates ∧ m.available? r.topic p = some (o, e) ∧
      r = Broker.recordOf r.topic p o.toNat e := by
  obtain ⟨p, e, hfree, hlog, hr, ht, -⟩ := take_eq_some h
  have hp : r.partition = p := by
    rw [hr]
    rfl
  refine ⟨p, _, e, mem_candidates.mpr ⟨ht, Broker.lt_partitionCount hlog⟩, ?_, hr⟩
  rw [available?, ← hp, hfree, hlog]
  rfl

/-- There is a record for the member in one of its partitions. -/
def Finds (m : Membership) : Prop :=
  ∃ k ∈ m.candidates, (m.available? k.1 k.2).isSome = true

/-- The member begins to look. -/
def advance (m : Membership) : Membership :=
  { m with consumer := { m.consumer with rotation := m.consumer.rotation + 1 } }

theorem take_eq {m : Membership} (hp : m.consumer.paused = false) (hne : m.candidates ≠ []) :
    m.take = match m.advance.firstAvailable?
        (rotate m.candidates (m.consumer.rotation + 1).toNat) with
      | some r => (some r, m.advance.handOut r)
      | none => (none, m.advance) := by
  have hempty : m.candidates.isEmpty = false := List.isEmpty_eq_false_iff.mpr hne
  unfold take
  rw [hp, hempty, Bool.or_false, if_neg Bool.false_ne_true]
  rfl

theorem paused_take {m m' : Membership} {x : Option Record} (h : m.take = (x, m')) :
    m'.consumer.paused = m.consumer.paused := by
  unfold take at h
  split at h
  · cases h
    rfl
  · dsimp only at h
    split at h <;> cases h <;> rfl

/-- A member that is not paused takes a record if there is one. -/
theorem Finds.take {m : Membership} (h : m.Finds) (hp : m.consumer.paused = false) :
    ∃ r m', m.take = (some r, m') := by
  obtain ⟨k, hk, hav⟩ := h
  rw [take_eq hp (List.ne_nil_of_mem hk)]
  split
  · exact ⟨_, _, rfl⟩
  · rename_i hnone
    have hav' : m.available? k.1 k.2 = none :=
      Option.map_eq_none_iff.mp (List.findSome?_eq_none_iff.mp hnone k (mem_rotate.mpr hk))
    rw [hav'] at hav
    cases hav

end Membership

end Redelivery
