import Redelivery.Proofs.Broker.Cursors
import Redelivery.Proofs.Broker.Topics

/-!
# Broker — every partition has its turn

A member is sole in its group if all that is handed out to the group is its own (`Session.Sole`).
It consumes records if it acknowledges what it took before it looks for more (`Session.Consumes`);
meanwhile other groups go on, and whatever is published is published, but no topic of the member
comes into being (`Session.Apart`).

**Turns** (`Session.fair_member`).  Each look for a record begins one partition further on than the
one before it, and a partition that it begins with is served if there is anything to be had.  So
every partition that has a record is served by one of as many looks in a row as the member has
partitions, and each look before that hands out a record too.
-/

namespace Redelivery

/-- A partition as the member's group sees it. -/
def Member.partitionId (m : Member) (x : String × Nat) : CursorId := ⟨m.consumer.group, x.1, x.2⟩

/-- The first record of a partition that the member's group has not been handed. -/
def Member.next? (m : Member) (b : Broker) (x : String × Nat) : Option Record :=
  let n := (b.cursor (m.partitionId x)).next.toNat
  ((b.log x.1 x.2)[n]?).map (Broker.recordOf x.1 x.2 n)

/-- What the group has not been handed is there to be handed later, as long as its cursor stays. -/
theorem Member.next?_mono {m m' : Member} {b b' : Broker} {x : String × Nat} {r : Record}
    (hg : m'.consumer.group = m.consumer.group) (hb : b.Extends b')
    (hc : (b'.cursor (m.partitionId x)).next = (b.cursor (m.partitionId x)).next)
    (h : m.next? b x = some r) : m'.next? b' x = some r := by
  obtain ⟨e, he, rfl⟩ := Option.map_eq_some_iff.mp h
  have hid : m'.partitionId x = m.partitionId x := by rw [partitionId, hg, partitionId]
  simp only [next?, hid, hc, hb.getElem? he, Option.map_some]

namespace Membership

/-! ### A look -/

theorem candidates_congr {m m' : Membership} (ht : m'.consumer.topics = m.consumer.topics)
    (hp : ∀ t ∈ m.consumer.topics, m'.broker.partitionCount t = m.broker.partitionCount t) :
    m'.candidates = m.candidates := by
  rw [candidates, ht, candidates]
  exact List.flatMap_congr fun t h => by rw [hp t h]

theorem rotate_eq_cons {α : Type} {l : List α} {n : Nat} {a : α}
    (h : l[n % l.length]? = some a) : ∃ rest, rotate l n = a :: rest := by
  obtain ⟨hlt, ha⟩ := List.getElem?_eq_some_iff.mp h
  rw [rotate, List.drop_eq_getElem_cons hlt, ha]
  exact ⟨_, rfl⟩

theorem fst_take_eq {m : Membership} (hp : m.consumer.paused = false) (hne : m.candidates ≠ []) :
    m.take.1 =
      m.advance.firstAvailable? (rotate m.candidates (m.consumer.rotation + 1).toNat) := by
  rw [take_eq hp hne]
  split
  · rename_i r hr
    exact hr.symm
  · rename_i hr
    exact hr.symm

/-- A look begins one partition further on than the one before it. -/
theorem rotation_take {m : Membership} (hp : m.consumer.paused = false)
    (hne : m.candidates ≠ []) : m.take.2.consumer.rotation = m.consumer.rotation + 1 := by
  rw [take_eq hp hne]
  split <;> rfl

/-- Where nothing is held, the first partition that has a record is served. -/
theorem fst_take {m : Member} {b : Broker} (hp : m.consumer.paused = false)
    (hne : (m.membership b).candidates ≠ [])
    (hrest : ∀ id, id.group = m.consumer.group → (b.cursor id).inFlight = false) :
    (m.membership b).take.1 =
      (rotate (m.membership b).candidates (m.consumer.rotation + 1).toNat).findSome?
        (m.next? b) := by
  have hnext : ∀ x : String × Nat, ((m.membership b).advance.available? x.1 x.2).map
      (fun y => Broker.recordOf x.1 x.2 y.1.toNat y.2) = m.next? b x := by
    intro x
    have hfree : (b.cursor (m.partitionId x)).inFlight = false := hrest _ rfl
    simp only [Member.partitionId] at hfree
    simp only [available?, cursorId, advance, Member.membership, hfree, Member.next?,
      Member.partitionId, Option.map_map, Bool.false_eq_true, if_false]
    rfl
  have hfirst : (m.membership b).advance.firstAvailable? = List.findSome? (m.next? b) := by
    funext l
    exact congrArg (List.findSome? · l) (funext hnext)
  rw [fst_take_eq hp hne, hfirst]
  rfl

end Membership

namespace Session

variable {s s' : Session} {i : Nat} {m : Member} {op : Operation}

/-! ### The broker of a session -/

/-- What the broker keeps through any operation. -/
structure Lasts (b b' : Broker) : Prop where
  regular : b'.Regular
  logs : b.Extends b'
  topics : b.KeepsTopics b'

theorem Lasts.of_topics_eq {b b' : Broker} (hb : b.Regular) (h : b'.topics = b.topics) :
    Lasts b b' :=
  ⟨hb.congr h, .of_log_eq (Broker.log_congr h), .of_topics_eq h⟩

theorem lasts_perform (hb : s.broker.Regular) (op : Operation) :
    Lasts s.broker (s.perform op).broker := by
  cases hop : op.member? with
  | some j =>
      cases hm : s.members[j]? with
      | none =>
          rw [perform_absent hop hm]
          exact .of_topics_eq hb rfl
      | some m =>
          obtain ⟨t, ht, hp⟩ := perform_turn hop hm
          rw [hp]
          exact .of_topics_eq hb ht.topics
  | none =>
      cases op with
      | poll _ | commit _ _ | rewind _ _ | pause _ | resume _ | keepAlive _ | close _ => cases hop
      | publish now r =>
          exact ⟨hb.publish now r, Broker.extends_publish hb now r,
            Broker.keepsTopics_publish s.broker now r⟩
      | create requests =>
          exact ⟨hb.createTopics requests, .of_log_eq (Broker.log_createTopics s.broker requests),
            Broker.keepsTopics_createTopics s.broker requests⟩
      | refuse n => exact .of_topics_eq hb rfl
      | join group topics =>
          have hbroker : (s.perform (.join group topics)).broker = s.broker := by
            simp only [Session.perform]
            split <;> rfl
          rw [hbroker]
          exact .of_topics_eq hb rfl

/-! ### A member alone in its group -/

/-- Member `i` is not paused, and all that is handed out to its group is its own. -/
structure Sole (s : Session) (i : Nat) (m : Member) : Prop where
  member : s.members[i]? = some m
  regular : s.broker.Regular
  unpaused : m.consumer.paused = false
  nonneg : ∀ id, id.group = m.consumer.group → 0 ≤ (s.broker.cursor id).next
  /-- What is handed out to the group, the member holds. -/
  holds : ∀ id, id.group = m.consumer.group → (s.broker.cursor id).inFlight = true →
    ∃ r ∈ m.records, m.cursorId r = id
  /-- The group is past what the member holds. -/
  past : ∀ r ∈ m.records, r.offset < (s.broker.cursor (m.cursorId r)).next

/-- The partitions of member `m`, in order. -/
def partitionsOf (s : Session) (m : Member) : List (String × Nat) :=
  (m.membership s.broker).candidates

theorem Sole.atRest (hs : s.Sole i m) (hnone : m.records = []) :
    ∀ id, id.group = m.consumer.group → (s.broker.cursor id).inFlight = false := by
  intro id hid
  by_contra h
  obtain ⟨r, hr, -⟩ := hs.holds id hid ((Bool.not_eq_false _).mp h)
  rw [hnone] at hr
  cases hr

/-- An operation has nothing to do with a member: it is of none of the member's group, and none of
the member's topics comes into being. -/
structure Apart (s : Session) (m : Member) (op : Operation) : Prop where
  others : ∀ j n, op.member? = some j → s.members[j]? = some n →
    n.consumer.group ≠ m.consumer.group
  topics : ∀ t ∈ m.consumer.topics, t ∈ (s.perform op).broker.topicNames →
    t ∈ s.broker.topicNames

namespace Apart

theorem member (h : s.Apart m op) (hm : s.members[i]? = some m) :
    (s.perform op).members[i]? = some m := by
  cases hop : op.member? with
  | some j =>
      cases hn : s.members[j]? with
      | none => rwa [perform_absent hop hn]
      | some n =>
          obtain ⟨t, -, hp⟩ := perform_turn hop hn
          have hj : j ≠ i := by
            rintro rfl
            exact h.others j m hop hm rfl
          rw [hp]
          exact (List.getElem?_set_ne hj).trans hm
  | none =>
      cases op with
      | poll _ | commit _ _ | rewind _ _ | pause _ | resume _ | keepAlive _ | close _ => cases hop
      | publish _ _ | create _ | refuse _ => exact hm
      | join group topics =>
          simp only [Session.perform]
          split
          · exact (List.getElem?_append_left (List.getElem?_eq_some_iff.mp hm).1).trans hm
          · exact hm

theorem cursor (h : s.Apart m op) {id : CursorId} (hid : id.group = m.consumer.group) :
    (s.perform op).broker.cursor id = s.broker.cursor id :=
  cursor_perform fun j n hj hn => hid ▸ h.others j n hj hn

theorem partitionsOf_eq (h : s.Apart m op) (hb : s.broker.Regular) :
    (s.perform op).partitionsOf m = s.partitionsOf m := by
  refine Membership.candidates_congr rfl fun t ht => ?_
  by_cases hmem : t ∈ s.broker.topicNames
  · exact (lasts_perform hb op).topics.partitionCount t hmem
  · have hnone : ∀ b : Broker, t ∉ b.topicNames → b.partitionCount t = 0 := by
      intro b hb
      rw [Broker.mem_topicNames, Option.not_isSome_iff_eq_none] at hb
      rw [Broker.partitionCount, Broker.partitions_eq_nil hb, List.length_nil]
    exact (hnone _ fun h' => hmem (h.topics t ht h')).trans (hnone _ hmem).symm

/-- The member stays alone in its group. -/
theorem sole (h : s.Apart m op) (hs : s.Sole i m) : (s.perform op).Sole i m where
  member := h.member hs.member
  regular := (lasts_perform hs.regular op).regular
  unpaused := hs.unpaused
  nonneg id hid := by
    rw [h.cursor hid]
    exact hs.nonneg id hid
  holds id hid := by
    rw [h.cursor hid]
    exact hs.holds id hid
  past r hr := by
    rw [h.cursor rfl]
    exact hs.past r hr

end Apart

/-- **What is published** to topics that exist, or that the member does not read, is apart from
it. -/
theorem apart_publish {now : Instant} {r : Outgoing}
    (h : r.topic ∈ m.consumer.topics → r.topic ∈ s.broker.topicNames) :
    s.Apart m (.publish now r) where
  others _ _ hop := by cases hop
  topics t ht hmem := by
    rcases Broker.mem_topicNames_publish hmem with hmem | rfl
    · exact hmem
    · exact h ht

/-! ### Acknowledging -/

/-- An acknowledgement moves no cursor on that is not behind the record. -/
theorem next_commit (hs : s.Sole i m) (r : Record) (id : CursorId) :
    ((m.commit r s.broker).broker.cursor id).next = (s.broker.cursor id).next := by
  unfold Member.commit
  split
  · rename_i hr
    change (((s.broker.setCursor (m.cursorId r) _).announce).cursor id).next = _
    rw [Broker.cursor_announce, Broker.cursor_setCursor]
    split
    · rename_i hid
      subst hid
      exact Int.max_eq_left (hs.past r hr)
    · rfl
  · rfl

/-- An acknowledgement changes what is held, and nothing else of the member. -/
theorem member_commit (m : Member) (b : Broker) (r : Record) :
    ∃ held records, (m.commit r b).member = ⟨{ m.consumer with held }, records⟩ ∧
      records ⊆ m.records := by
  unfold Member.commit
  split
  · exact ⟨_, _, rfl, List.filter_subset_self ..⟩
  · exact ⟨_, _, rfl, List.Subset.refl _⟩

theorem topics_commit (m : Member) (b : Broker) (r : Record) :
    (m.commit r b).broker.topics = b.topics := by
  unfold Member.commit
  split <;> rfl

/-- What is still handed out after an acknowledgement is held. -/
theorem Sole.holds_commit (hs : s.Sole i m) (r : Record) :
    ∀ id, id.group = m.consumer.group →
      ((m.commit r s.broker).broker.cursor id).inFlight = true →
      ∃ r' ∈ (m.commit r s.broker).member.records, m.cursorId r' = id := by
  intro id hid h
  unfold Member.commit at h ⊢
  split at h
  · rename_i hr
    change (((s.broker.setCursor (m.cursorId r) _).announce).cursor id).inFlight = true at h
    rw [Broker.cursor_announce, Broker.cursor_setCursor] at h
    split at h
    · cases h
    · rename_i hne
      obtain ⟨r', hr', rfl⟩ := hs.holds id hid h
      rw [if_pos hr]
      refine ⟨r', List.mem_filter.mpr ⟨hr', decide_eq_true ?_⟩, rfl⟩
      rintro rfl
      exact hne rfl
  · rename_i hr
    rw [if_neg hr]
    exact hs.holds id hid h

theorem Sole.commit (hs : s.Sole i m) (r : Record) :
    (s.perform (.commit i r)).Sole i (m.commit r s.broker).member := by
  obtain ⟨held, records, hm, hsub⟩ := member_commit m s.broker r
  have hholds := hs.holds_commit r
  rw [hm] at hholds ⊢
  rw [Session.perform, act_eq _ hs.member, hm]
  refine ⟨?_, hs.regular.congr (topics_commit m s.broker r), hs.unpaused, fun id hid => ?_,
    hholds, fun r' hr' => ?_⟩
  · exact (member_set hs.member).mpr (.inl ⟨rfl, rfl⟩)
  · rw [next_commit hs]
    exact hs.nonneg id hid
  · rw [next_commit hs]
    exact hs.past r' (hsub hr')

theorem partitionsOf_congr {m' : Member} (ht : m'.consumer.topics = m.consumer.topics)
    (hb : s'.broker.topics = s.broker.topics) : s'.partitionsOf m' = s.partitionsOf m := by
  refine Membership.candidates_congr ht fun t _ => ?_
  change s'.broker.partitionCount t = s.broker.partitionCount t
  rw [Broker.partitionCount, Broker.partitions, hb]
  rfl

/-! ### Looking -/

/-- Member `i` looks for a record. -/
theorem poll_eq (hm : s.members[i]? = some m) :
    s.perform (.poll i) = ⟨(m.poll s.broker).broker, s.members.set i (m.poll s.broker).member,
      s.history ++ (m.poll s.broker).handled⟩ :=
  act_eq Member.poll hm

/-- A look changes what is held and where the next one begins, and nothing else of the member. -/
theorem member_poll (m : Member) (b : Broker) :
    (m.poll b).member.consumer = (m.membership b).take.2.consumer ∧
      (m.poll b).member.consumer.group = m.consumer.group ∧
      (m.poll b).member.consumer.topics = m.consumer.topics ∧
      (m.poll b).broker = (m.membership b).take.2.broker := by
  unfold Member.poll
  split
  · rename_i r x h
    obtain ⟨-, -, -, -, -, -, -, hg, ht, -⟩ := Membership.take_eq_some h
    rw [h]
    exact ⟨rfl, hg, ht, rfl⟩
  · rename_i x h
    obtain ⟨-, hx⟩ := Membership.take_eq_none h
    rw [h]
    exact ⟨rfl, hx.group, hx.topics, rfl⟩

/-- A record that is taken is the next one of its partition, whose cursor moves on. -/
theorem cursor_take {b : Broker} {r : Record} {y : Membership}
    (h : (m.membership b).take = (some r, y)) :
    r.offset = (b.cursor (m.cursorId r)).next.toNat ∧
    (∀ x, m.partitionId x = m.cursorId r → m.next? b x = some r) ∧
    ∀ id, y.broker.cursor id =
      if id = m.cursorId r then
        { b.cursor id with next := (b.cursor id).next + 1, inFlight := true }
      else b.cursor id := by
  obtain ⟨p, e, -, hlog, hr, -, hb, -⟩ := Membership.take_eq_some h
  change (b.log r.topic p)[(b.cursor (m.cursorId r)).next.toNat]? = some e at hlog
  change r = Broker.recordOf r.topic p (b.cursor (m.cursorId r)).next.toNat e at hr
  refine ⟨congrArg Record.offset hr, ?_, fun id => ?_⟩
  · rintro ⟨t, q⟩ hx
    obtain ⟨ht, hq⟩ := (CursorId.mk.injEq ..).mp hx |>.2
    obtain rfl : t = r.topic := ht
    obtain rfl : q = p := Int.ofNat_inj.mp (hq.trans (congrArg Record.partition hr))
    rw [Member.next?, hx, hlog, Option.map_some, ← hr]
  · rw [hb, Broker.cursor_setCursor]
    change (if id = m.cursorId r then _ else b.cursor id) = _
    split
    · rename_i hid
      rw [hid]
      rfl
    · rfl

/-- The member that looks stays alone in its group. -/
theorem Sole.poll (hs : s.Sole i m) (hnone : m.records = []) :
    (s.perform (.poll i)).Sole i (m.poll s.broker).member := by
  have hrest := hs.atRest hnone
  have hregular := (lasts_perform hs.regular (.poll i)).regular
  have hmember := (member_set (n := (m.poll s.broker).member) hs.member).mpr (.inl ⟨rfl, rfl⟩)
  rw [poll_eq hs.member] at hregular ⊢
  rcases htake : (m.membership s.broker).take with ⟨_ | r, y⟩
  · obtain ⟨hb, hy⟩ := Membership.take_eq_none htake
    have hpoll : m.poll s.broker = ⟨⟨y.consumer, m.records⟩, s.broker, []⟩ := by
      simp only [Member.poll, htake, Member.turn, hb]
      rfl
    have hpaused := (Membership.paused_take htake).trans hs.unpaused
    rw [hpoll] at hregular hmember ⊢
    refine ⟨hmember, hregular, hpaused, fun id hid => ?_, fun id hid h => ?_, fun r hr => ?_⟩
    · exact hs.nonneg id (hid.trans hy.group)
    · rw [hrest id (hid.trans hy.group)] at h
      cases h
    · rw [hnone] at hr
      cases hr
  · obtain ⟨-, -, -, -, -, -, -, hg, -⟩ := Membership.take_eq_some htake
    obtain ⟨ho, -, hcursor⟩ := cursor_take htake
    have hpoll : m.poll s.broker = ⟨⟨y.consumer, [r]⟩, y.broker, [m.handling .taken r]⟩ := by
      simp only [Member.poll, htake, Member.turn, hnone, List.nil_append]
    have hcid : Member.cursorId ⟨y.consumer, [r]⟩ r = m.cursorId r := by
      rw [Member.cursorId, hg]
      rfl
    have hpaused := (Membership.paused_take htake).trans hs.unpaused
    rw [hpoll] at hregular hmember ⊢
    refine ⟨hmember, hregular, hpaused, fun id hid => ?_, fun id hid h => ?_, fun r' hr => ?_⟩
    · have := hs.nonneg id (hid.trans hg)
      dsimp only
      rw [hcursor]
      split
      · dsimp only
        omega
      · exact this
    · -- nothing but the record that is taken is handed out now
      dsimp only at h
      rw [hcursor] at h
      split at h
      · rename_i heq
        exact ⟨r, List.mem_singleton_self r, hcid.trans heq.symm⟩
      · rw [hrest id (hid.trans hg)] at h
        cases h
    · obtain rfl := List.mem_singleton.mp hr
      have := hs.nonneg (m.cursorId r') rfl
      rw [hcid, hcursor, if_pos rfl, ho]
      dsimp only
      omega

/-! ### Consuming -/

/-- What happens while member `i` consumes, with what its look comes to if it looks. -/
inductive Step (i : Nat) (s : Session) : List (Option Record) → Session → Prop where
  | apart {m : Member} {op : Operation} (hm : s.members[i]? = some m) (hop : s.Apart m op) :
      Step i s [] (s.perform op)
  | acknowledge (r : Record) : Step i s [] (s.perform (.commit i r))
  /-- The member looks for a record when it has acknowledged all that it took. -/
  | look {m : Member} (hm : s.members[i]? = some m) (hnone : m.records = []) :
      Step i s [(m.membership s.broker).take.1] (s.perform (.poll i))

/-- Member `i` consumes records.  `answers` are what its looks come to, in order. -/
inductive Consumes (i : Nat) (s : Session) : List (Option Record) → Session → Prop where
  | start : Consumes i s [] s
  | step {s' s'' : Session} {answers a : List (Option Record)} (h : Consumes i s answers s')
      (hs : Step i s' a s'') : Consumes i s (answers ++ a) s''

/-- A step leaves the member alone in its group, with the same partitions. -/
theorem Step.sole {a : List (Option Record)} (h : Step i s a s') (hs : s.Sole i m) :
    ∃ m', s'.Sole i m' ∧ s'.partitionsOf m' = s.partitionsOf m := by
  cases h with
  | apart hm hop =>
      obtain rfl := Option.some.inj (hm.symm.trans hs.member)
      exact ⟨_, hop.sole hs, hop.partitionsOf_eq hs.regular⟩
  | acknowledge r =>
      obtain ⟨held, records, hm, -⟩ := member_commit m s.broker r
      refine ⟨_, hs.commit r, partitionsOf_congr ?_ ?_⟩
      · rw [hm]
      · rw [Session.perform, act_eq _ hs.member]
        exact topics_commit m s.broker r
  | look hm hnone =>
      obtain rfl := Option.some.inj (hm.symm.trans hs.member)
      obtain ⟨-, -, ht, -⟩ := member_poll _ s.broker
      refine ⟨_, hs.poll hnone, partitionsOf_congr ht ?_⟩
      rw [poll_eq hm]
      exact (within_poll _ s.broker).topics

theorem Consumes.sole {answers : List (Option Record)} (h : Consumes i s answers s')
    (hs : s.Sole i m) : ∃ m', s'.Sole i m' ∧ s'.partitionsOf m' = s.partitionsOf m := by
  induction h with
  | start => exact ⟨m, hs, rfl⟩
  | step _ hstep ih =>
      obtain ⟨m', hs', hp'⟩ := ih
      obtain ⟨m'', hs'', hp''⟩ := hstep.sole hs'
      exact ⟨m'', hs'', hp''.trans hp'⟩

/-! ### A partition that waits -/

/-- Partition `x` has record `r` for the member, whose partitions are `l`; the member has looked
for a record `n` times. -/
structure Awaits (s : Session) (i : Nat) (l : List (String × Nat)) (x : String × Nat) (r : Record)
    (n : Nat) (m : Member) : Prop extends s.Sole i m where
  partitions : s.partitionsOf m = l
  next : m.next? s.broker x = some r
  rotation : m.consumer.rotation.toNat = n

variable {l : List (String × Nat)} {x : String × Nat} {r : Record} {n : Nat}

theorem Apart.awaits (hop : s.Apart m op) (h : s.Awaits i l x r n m) :
    (s.perform op).Awaits i l x r n m where
  toSole := hop.sole h.toSole
  partitions := (hop.partitionsOf_eq h.regular).trans h.partitions
  next := Member.next?_mono rfl (lasts_perform h.regular op).logs
    (congrArg Cursor.next (hop.cursor rfl)) h.next
  rotation := h.rotation

theorem Awaits.commit (h : s.Awaits i l x r n m) (r' : Record) :
    (s.perform (.commit i r')).Awaits i l x r n (m.commit r' s.broker).member := by
  have hsole := h.toSole.commit r'
  have hnext := next_commit h.toSole r'
  have ht := topics_commit m s.broker r'
  obtain ⟨held, records, hm, -⟩ := member_commit m s.broker r'
  have hb : (s.perform (.commit i r')).broker = (m.commit r' s.broker).broker := by
    rw [Session.perform, act_eq _ h.member]
  rw [hm] at hsole ⊢
  refine ⟨hsole, (partitionsOf_congr rfl (hb ▸ ht)).trans h.partitions, ?_, h.rotation⟩
  rw [hb]
  exact Member.next?_mono rfl (.of_log_eq (Broker.log_congr ht)) (hnext _) h.next

/-- **A look** hands out a record.  If it is not that of the partition that waits, then the look has
begun with another partition, and the partition still waits. -/
theorem Awaits.look (h : s.Awaits i l x r n m) (hx : x ∈ l) (hn : n + 1 < UInt64.size)
    (hnone : m.records = []) :
    ∃ r', (m.membership s.broker).take.1 = some r' ∧
      (r' = r ∨ l[(n + 1) % l.length]? ≠ some x ∧
        (s.perform (.poll i)).Awaits i l x r (n + 1) (m.poll s.broker).member) := by
  have hpart : (m.membership s.broker).candidates = l := h.partitions
  have hne : (m.membership s.broker).candidates ≠ [] := hpart ▸ List.ne_nil_of_mem hx
  have hrot : (m.consumer.rotation + 1).toNat = n + 1 := by
    rw [UInt64.toNat_add, h.rotation]
    exact Nat.mod_eq_of_lt hn
  have hfst := Membership.fst_take h.unpaused hne (h.toSole.atRest hnone)
  rw [hrot, hpart] at hfst
  rcases htake : (m.membership s.broker).take with ⟨_ | r', y⟩
  · rw [htake] at hfst
    have hall := List.findSome?_eq_none_iff.mp hfst.symm x (Membership.mem_rotate.mpr hx)
    rw [h.next] at hall
    cases hall
  · rw [htake] at hfst
    refine ⟨r', rfl, or_iff_not_imp_left.mpr fun hr => ⟨fun hhead => ?_, ?_⟩⟩
    · obtain ⟨rest, hrest⟩ := Membership.rotate_eq_cons hhead
      rw [hrest, List.findSome?_cons, h.next] at hfst
      exact hr (Option.some.inj hfst)
    · obtain ⟨hconsumer, hg, ht, hb⟩ := member_poll m s.broker
      obtain ⟨-, hserved, hcursor⟩ := cursor_take htake
      have hbroker : (s.perform (.poll i)).broker = y.broker := by
        rw [poll_eq h.member]
        exact hb.trans (congrArg (·.2.broker) htake)
      have htopics : (s.perform (.poll i)).broker.topics = s.broker.topics := by
        rw [poll_eq h.member]
        exact (within_poll m s.broker).topics
      refine ⟨h.toSole.poll hnone, (partitionsOf_congr ht htopics).trans h.partitions, ?_, ?_⟩
      · -- the cursor of another partition has moved
        have hid : m.partitionId x ≠ m.cursorId r' := fun e =>
          hr (Option.some.inj ((hserved x e).symm.trans h.next))
        refine Member.next?_mono hg (.of_log_eq (Broker.log_congr htopics)) ?_ h.next
        rw [hbroker, hcursor, if_neg hid]
      · rw [hconsumer, Membership.rotation_take h.unpaused hne]
        exact hrot

theorem Awaits.step {a : List (Option Record)} (h : s.Awaits i l x r n m) (hx : x ∈ l)
    (hn : n + 1 < UInt64.size) (hstep : Step i s a s') :
    (a = [] ∧ ∃ m', s'.Awaits i l x r n m') ∨
      ∃ r', a = [some r'] ∧ (r' = r ∨ l[(n + 1) % l.length]? ≠ some x ∧
        ∃ m', s'.Awaits i l x r (n + 1) m') := by
  cases hstep with
  | apart hm hop =>
      obtain rfl := Option.some.inj (hm.symm.trans h.member)
      exact .inl ⟨rfl, _, hop.awaits h⟩
  | acknowledge r' => exact .inl ⟨rfl, _, h.commit r'⟩
  | look hm hnone =>
      obtain rfl := Option.some.inj (hm.symm.trans h.member)
      obtain ⟨r', hr', hcases⟩ := h.look hx hn hnone
      rw [hr']
      exact .inr ⟨r', rfl, hcases.imp_right fun ⟨hhead, h'⟩ => ⟨hhead, _, h'⟩⟩

/-- Of as many numbers in a row as there are positions, one leads to position `q`. -/
theorem exists_turn {k q : Nat} (hq : q < k) (n : Nat) : ∃ d < k, (n + d) % k = q := by
  have hmod : ∀ d, (n + d) % k = (n % k + d) % k := fun d => (Nat.mod_add_mod n k d).symm
  have hlt : n % k < k := Nat.mod_lt n (Nat.zero_lt_of_lt hq)
  by_cases hle : n % k ≤ q
  · refine ⟨q - n % k, by omega, ?_⟩
    rw [hmod, Nat.add_sub_cancel' hle, Nat.mod_eq_of_lt hq]
  · refine ⟨q + k - n % k, by omega, ?_⟩
    rw [hmod, Nat.add_sub_cancel' (by omega), Nat.add_mod_right, Nat.mod_eq_of_lt hq]

/-- Looks that all begin with other partitions than `x` are fewer than the partitions. -/
theorem lt_length_of_others {k : Nat} (hx : x ∈ l)
    (hothers : ∀ d < k, l[(n + d) % l.length]? ≠ some x) : k < l.length := by
  obtain ⟨q, hq, hqx⟩ := List.getElem_of_mem hx
  obtain ⟨d, hd, hturn⟩ := exists_turn hq n
  by_contra hle
  refine hothers d (by omega) ?_
  rw [hturn, List.getElem?_eq_getElem hq, hqx]

/-- One of the first `k` answers is record `r`, and all before it are records too. -/
def ServedWithin (k : Nat) (r : Record) (answers : List (Option Record)) : Prop :=
  ∃ (before : List Record) (after : List (Option Record)),
    answers = before.map some ++ some r :: after ∧ before.length < k

/-- **A partition that waits** has been served, or no look has begun with it. -/
theorem Awaits.served {answers : List (Option Record)} (h : s.Awaits i l x r n m) (hx : x ∈ l)
    (hn : n + l.length < UInt64.size) (hc : Consumes i s answers s') :
    ServedWithin l.length r answers ∨
      ∃ (before : List Record) (m' : Member), answers = before.map some ∧
        s'.Awaits i l x r (n + before.length) m' ∧
        ∀ d < before.length, l[(n + 1 + d) % l.length]? ≠ some x := by
  induction hc with
  | start => exact .inr ⟨[], m, rfl, h, by simp⟩
  | @step s' s'' answers a hc hstep ih =>
      rcases ih with ⟨before, after, rfl, hlt⟩ | ⟨before, m', rfl, h', hothers⟩
      · exact .inl ⟨before, after ++ a, by simp, hlt⟩
      · have hlt := lt_length_of_others hx hothers
        rcases h'.step hx (by omega) hstep with ⟨rfl, m'', h''⟩ | ⟨r', rfl, rfl | ⟨hhead, m'', h''⟩⟩
        · exact .inr ⟨before, m'', by simp, h'', hothers⟩
        · exact .inl ⟨before, [], rfl, hlt⟩
        · refine .inr ⟨before ++ [r'], m'', by simp, ?_, fun d hd => ?_⟩
          · rwa [List.length_append, ← Nat.add_assoc]
          · rw [List.length_append, List.length_singleton] at hd
            rcases Nat.lt_succ_iff_lt_or_eq.mp hd with hd | rfl
            · exact hothers d hd
            · rwa [Nat.add_right_comm]

/-! ### Fairness -/

/-- What can be said of member `i` of a session that is the only one of its group. -/
structure Fair (i : Nat) : Prop where
  /-- It is alone in its group, whatever has happened before. -/
  sole : ∀ {ops m}, (run ops).members[i]? = some m → m.consumer.paused = false →
    (∀ j n, (run ops).members[j]? = some n → n.consumer.group = m.consumer.group → j = i) →
    (run ops).Sole i m
  /-- What is published to topics that exist, or that it does not read, does not concern it. -/
  publish : ∀ {s : Session} {m : Member} {now : Instant} {r : Outgoing},
    (r.topic ∈ m.consumer.topics → r.topic ∈ s.broker.topicNames) → s.Apart m (.publish now r)
  /-- It stays alone while it consumes, and its partitions stay the same. -/
  stays : ∀ {s m answers s'}, s.Sole i m → Consumes i s answers s' →
    ∃ m', s'.Sole i m' ∧ s'.partitionsOf m' = s.partitionsOf m
  /-- **No partition starves.**  A partition that has a record is served by one of the next looks,
  of which there are no more than the member has partitions, and none of which finds nothing. -/
  served : ∀ {s m answers s' x r}, s.Sole i m → x ∈ s.partitionsOf m →
    m.next? s.broker x = some r →
    m.consumer.rotation.toNat < UInt64.size - 2 * (s.partitionsOf m).length →
    Consumes i s answers s' → (s.partitionsOf m).length ≤ answers.length →
    ServedWithin (s.partitionsOf m).length r answers

theorem fair_member (i : Nat) : Fair i where
  sole {ops m} hm hp honly := by
    have hs := sound_run ops
    refine ⟨hm, hs.regular, hp, fun id _ => ?_, fun id hid hf => ?_, fun r hr => ?_⟩
    · obtain ⟨k, f, hc, -⟩ := hs.cursor id
      rw [hc]
      cases f <;> simp only [Cursor.after] <;> omega
    · -- whoever holds what is handed out to the group is the member
      obtain ⟨k, f, hc, -, -, hheld⟩ := hs.cursor id
      rw [hc] at hf
      obtain ⟨j, r, n, hn, hr, rfl⟩ := hheld hf
      obtain rfl := honly j n hn hid
      obtain rfl := Option.some.inj (hm.symm.trans hn)
      exact ⟨r, hr, rfl⟩
    · obtain ⟨k, hc, ho⟩ := hs.cursor_of_mem hm hr
      rw [hc, ho]
      simp only [Cursor.after, if_true]
      omega
  publish := apart_publish
  stays hs hc := hc.sole hs
  served {s m answers s' x r} hs hx hnext hrot hc hlen := by
    rcases Awaits.served ⟨hs, rfl, hnext, rfl⟩ hx (by omega) hc with
      h | ⟨before, m', rfl, h', hothers⟩
    · exact h
    · have hlt := lt_length_of_others hx hothers
      rw [List.length_map] at hlen
      omega

/-- The only member of a group, with one record in the first of two partitions and two in the
second, with which its looks begin. -/
def ahead : Session :=
  let send (p : Int) : Operation := .publish 0 { topic := "a", partition := some p }
  run [.create [⟨"a", 2, 1⟩], send 0, send 1, send 1, .join "g" ["a"]]

/-- A partition may have to wait for the last of these looks: the first one begins with the other
partition, which has more to come, and gets more meanwhile. -/
theorem fair_member_last :
    let m : Member := { consumer := { group := "g", topics := ["a"] } }
    let r := Broker.recordOf "a" 0 0 ⟨none, none, .empty, 0⟩
    let other := Broker.recordOf "a" 1 0 ⟨none, none, .empty, 0⟩
    ahead.Sole 0 m ∧ ahead.partitionsOf m = [("a", 0), ("a", 1)] ∧
      m.next? ahead.broker ("a", 0) = some r ∧
      ∃ s, Consumes 0 ahead [some other, some r] s ∧ (∃ m', s.Sole 0 m') ∧
        ServedWithin 2 r [some other, some r] := by
  intro m r other
  have hfair := fair_member 0
  have hsole : ahead.Sole 0 m := by
    refine hfair.sole rfl rfl fun j n hj _ => ?_
    have hlt : j < 1 := (List.getElem?_eq_some_iff.mp hj).1
    omega
  have hpart : ahead.partitionsOf m = [("a", 0), ("a", 1)] := by decide
  have hnext : m.next? ahead.broker ("a", 0) = some r := by decide
  -- a look, a record published for the other partition, an acknowledgement and a second look
  have hconsumes : ∃ s, Consumes 0 ahead [some other, some r] s := by
    let more : Outgoing := { topic := "a", partition := some 1 }
    let s₁ := ahead.perform (.poll 0)
    let s₂ := (s₁.perform (.publish 0 more)).perform (.commit 0 other)
    let m₁ : Member := ⟨{ m.consumer with rotation := 1, held := [("a", 1)] }, [other]⟩
    let m₂ : Member := ⟨{ m.consumer with rotation := 1 }, []⟩
    have hm₁ : s₁.members[0]? = some m₁ := by decide +kernel
    have hm₂ : s₂.members[0]? = some m₂ := by decide +kernel
    have htake : (m.membership ahead.broker).take.1 = some other := by decide +kernel
    have htake₂ : (m₂.membership s₂.broker).take.1 = some r := by decide +kernel
    have hmore : Step 0 s₁ [] (s₁.perform (.publish 0 more)) :=
      .apart hm₁ (hfair.publish fun _ => by decide +kernel)
    refine ⟨s₂.perform (.poll 0), ?_⟩
    rw [← htake, ← htake₂]
    exact (((Consumes.start.step (.look hsole.member rfl)).step hmore).step
      (.acknowledge other)).step (.look hm₂ rfl)
  obtain ⟨s, hs⟩ := hconsumes
  obtain ⟨m', hm', -⟩ := hfair.stays hsole hs
  refine ⟨hsole, hpart, hnext, s, hs, ⟨m', hm'⟩, ?_⟩
  have hserved := hfair.served hsole (hpart ▸ List.mem_cons_self ..) hnext
    (by rw [hpart]; decide) hs (by rw [hpart]; decide)
  rwa [hpart] at hserved

end Session

end Redelivery
