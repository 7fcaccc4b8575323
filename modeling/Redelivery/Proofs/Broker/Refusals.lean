import Redelivery.Proofs.Broker.Topics

/-!
# Broker — publications that fail

A publication fails because it is refused on purpose, or because it asks for a partition that its
topic does not have (`Broker.Refuses`, `publish_eq_error_iff`).  The partitions of a topic that does
not exist are counted after it was created, with one partition (`Broker.offered`).

**Remains** (`failures_publish`).  A publication that fails adds to no log, moves no cursor and
changes no topic that exists.  It has no effect on the topics just when it is refused on purpose or
its topic existed.  Else the topic exists from then on, and since it keeps its one partition, what
could not be published cannot be published later either, whatever topics are created
(`publish_leavesTopic`).
-/

namespace Redelivery

namespace Broker

/-- How many partitions a publication finds: those of its topic, or the one with which the topic is
created. -/
def offered (b : Broker) (t : String) : Nat :=
  if t ∈ b.topicNames then b.partitionCount t else 1

/-- A topic has the partition that is asked for, if one is. -/
def Accepts (b : Broker) (topic : String) (partition : Option Int) : Prop :=
  ∀ p, partition = some p → 0 ≤ p ∧ p.toNat < b.offered topic

/-- How a publication fails, with what error, and what it leaves behind. -/
inductive Refuses (b : Broker) (r : Outgoing) : BrokerError → Broker → Prop where
  /-- It is one of those to be refused on purpose, of which there is one less now. -/
  | injected {n : Nat} (h : b.refusing = n + 1) :
      Refuses b r (.publish (.injected r.topic)) { b with refusing := n }
  /-- It asks for a partition that is not there.  Its topic is. -/
  | outOfRange {p : Int} (h : b.refusing = 0) (hp : r.partition = some p)
      (hr : ¬ (0 ≤ p ∧ p.toNat < b.offered r.topic)) :
      Refuses b r (.publish (.outOfRange p r.topic (b.offered r.topic))) (b.ensureTopic r.topic 1)

variable {b b' : Broker} {r : Outgoing} {e : BrokerError} {t : String}

/-! ### Partitions that are there -/

theorem partitionCount_ensureTopic (b : Broker) (t : String) :
    (b.ensureTopic t 1).partitionCount t = b.offered t := by
  rw [partitionCount, partitions_ensureTopic, offered]
  by_cases ht : t ∈ b.topicNames
  · rw [if_neg (fun h => h.2 ht), if_pos ht, partitionCount]
  · rw [if_pos ⟨rfl, ht⟩, if_neg ht]
    rfl

theorem choosePartition_eq_error_iff {n : Nat} {e : PublishFailure} :
    choosePartition r n = .error e ↔
      ∃ p, r.partition = some p ∧ ¬ (0 ≤ p ∧ p.toNat < n) ∧ e = .outOfRange p r.topic n := by
  unfold choosePartition
  cases hp : r.partition with
  | none => simp
  | some p =>
      dsimp only
      split
      · rename_i hr
        constructor
        · nofun
        · rintro ⟨q, hq, hn, rfl⟩
          cases hq
          exact absurd hr hn
      · rename_i hr
        constructor
        · intro h
          exact ⟨p, rfl, hr, (Except.error.inj h).symm⟩
        · rintro ⟨q, hq, -, rfl⟩
          cases hq
          rfl

/-! ### Failures -/

/-- **Publications that fail**, and how. -/
theorem publish_eq_error_iff {now : Instant} :
    b.publish now r = (.error e, b') ↔ b.Refuses r e b' := by
  constructor
  · intro h
    unfold publish at h
    split at h
    · rename_i n hn
      cases h
      exact .injected hn
    · rename_i hzero
      dsimp only at h
      split at h
      · rename_i f hf
        cases h
        obtain ⟨p, hp, hr, rfl⟩ := choosePartition_eq_error_iff.mp hf
        rw [partitionCount_ensureTopic] at hr ⊢
        exact .outOfRange hzero hp hr
      · cases h
  · intro h
    unfold publish
    cases h with
    | injected h => rw [h]
    | outOfRange h hp hr =>
        rw [h]
        dsimp only
        rw [choosePartition_eq_error_iff.mpr ⟨_, hp, ?_, rfl⟩, partitionCount_ensureTopic]
        rwa [partitionCount_ensureTopic]

/-- A publication that is not refused succeeds, if its topic has the partition that it asks for. -/
theorem Accepts.fst_publish (h : b.Accepts r.topic r.partition) (hr : b.refusing = 0)
    (now : Instant) : (b.publish now r).1 = .ok () := by
  cases hresult : b.publish now r with
  | mk result b' =>
      cases result with
      | ok _ => rfl
      | error e =>
          cases publish_eq_error_iff.mp hresult with
          | injected hinjected =>
              rw [hr] at hinjected
              cases hinjected
          | outOfRange _ hp hmissing => exact absurd (h _ hp) hmissing

theorem Accepts.congr {p : Option Int} (h : b.Accepts t p) (ht : b'.topics = b.topics) :
    b'.Accepts t p := by
  rwa [Accepts, offered, topicNames, partitionCount, partitions, ht]

theorem Refuses.keepsTopics (h : b.Refuses r e b') : b.KeepsTopics b' := by
  cases h with
  | injected _ => exact .of_topics_eq rfl
  | outOfRange _ _ _ => exact b.keepsTopics_ensureTopic r.topic 1

theorem Refuses.log_eq (h : b.Refuses r e b') (t : String) (p : Nat) : b'.log t p = b.log t p := by
  cases h with
  | injected _ => rfl
  | outOfRange _ _ _ => exact log_ensureTopic b r.topic t 1 p

theorem Refuses.cursors_eq (h : b.Refuses r e b') : b'.cursors = b.cursors := by
  cases h with
  | injected _ => rfl
  | outOfRange _ _ _ => exact cursors_ensureTopic b r.topic 1

/-- A publication that fails has no effect on the topics just when it is refused on purpose or its
topic existed. -/
theorem Refuses.topics_eq_iff (h : b.Refuses r e b') :
    b'.topics = b.topics ↔ b.refusing ≠ 0 ∨ r.topic ∈ b.topicNames := by
  cases h with
  | injected h => simp [h]
  | outOfRange h _ _ =>
      constructor
      · intro htopics
        have hmem := mem_topicNames_ensureTopic b r.topic 1
        rw [topicNames, htopics] at hmem
        exact .inr hmem
      · rintro (hne | hmem)
        · exact absurd h hne
        · rw [ensureTopic_of_mem hmem]

/-- What a publication creates that fails: a topic with one partition, in which nothing is. -/
theorem Refuses.created (h : b.Refuses r e b') (hne : b'.topics ≠ b.topics) :
    b'.topicNames = b.topicNames ++ [r.topic] ∧ b'.partitions r.topic = [[]] := by
  obtain ⟨hzero, hmem⟩ := not_or.mp fun hor => hne (h.topics_eq_iff.mpr hor)
  cases h with
  | injected h => exact absurd (h ▸ Nat.succ_ne_zero _) hzero
  | outOfRange _ _ _ =>
      rw [topicNames_ensureTopic, if_neg hmem, partitions_ensureTopic, if_pos ⟨rfl, hmem⟩]
      exact ⟨rfl, rfl⟩

/-- A partition that is not there when it is asked for is never there, as topics keep their
partitions. -/
theorem Refuses.lasting {p : Int} {n : Nat}
    (h : b.Refuses r (.publish (.outOfRange p r.topic n)) b') {later : Broker}
    (hk : b'.KeepsTopics later) (now : Instant) :
    ∃ e, (later.publish now r).1 = .error e := by
  cases h with
  | outOfRange hzero hp hr =>
      have hmem := mem_topicNames_ensureTopic b r.topic 1
      have hcount : later.offered r.topic = b.offered r.topic := by
        rw [offered, if_pos (hk.mem _ hmem), hk.partitionCount _ hmem, partitionCount_ensureTopic]
      cases hrefusing : later.refusing with
      | succ n => exact ⟨_, congrArg Prod.fst (publish_eq_error_iff.mpr (.injected hrefusing))⟩
      | zero =>
          refine ⟨_, congrArg Prod.fst (publish_eq_error_iff.mpr (.outOfRange hrefusing hp ?_))⟩
          rwa [hcount]

/-- What a publication leaves behind that fails. -/
structure Remains (b : Broker) (now : Instant) (r : Outgoing) : Prop where
  fails_iff : ∀ e b', b.publish now r = (.error e, b') ↔ b.Refuses r e b'
  /-- No log is longer, and no topic that exists has other partitions. -/
  log_eq : ∀ e b', b.Refuses r e b' → ∀ t p, b'.log t p = b.log t p
  keepsTopics : ∀ e b', b.Refuses r e b' → b.KeepsTopics b'
  cursors_eq : ∀ e b', b.Refuses r e b' → b'.cursors = b.cursors
  /-- The topics are the same if the publication is refused on purpose or its topic existed, and
  only then. -/
  topics_eq_iff : ∀ e b', b.Refuses r e b' →
    (b'.topics = b.topics ↔ b.refusing ≠ 0 ∨ r.topic ∈ b.topicNames)
  /-- Else there is one topic more, with one partition. -/
  created : ∀ e b', b.Refuses r e b' → b'.topics ≠ b.topics →
    b'.topicNames = b.topicNames ++ [r.topic] ∧ b'.partitions r.topic = [[]]
  /-- A publication for a partition that is not there fails whenever it is made again. -/
  lasting : ∀ p n b', b.Refuses r (.publish (.outOfRange p r.topic n)) b' →
    ∀ later, b'.KeepsTopics later → ∀ now, ∃ e, (later.publish now r).1 = .error e

/-- **What is left** of publications that fail, in every broker. -/
theorem failures_publish (b : Broker) (now : Instant) (r : Outgoing) : b.Remains now r where
  fails_iff _ _ := publish_eq_error_iff
  log_eq _ _ h := h.log_eq
  keepsTopics _ _ h := h.keepsTopics
  cursors_eq _ _ h := h.cursors_eq
  topics_eq_iff _ _ h := h.topics_eq_iff
  created _ _ h hne := h.created hne
  lasting _ _ _ h _ hk := h.lasting hk

/-! ### A publication that leaves a topic behind -/

/-- A publication fails for want of a partition and leaves its topic behind.  The topic cannot be
created with more partitions any more, so that the same publication fails again, which would have
succeeded otherwise. -/
theorem publish_leavesTopic :
    let r : Outgoing := { topic := "orders", partition := some 2 }
    let failed := empty.publish 0 r
    let wanted : List TopicRequest := [⟨"orders", 3, 1⟩]
    failed.1 = .error (.publish (.outOfRange 2 "orders" 1)) ∧
      empty.topicNames = [] ∧ failed.2.topicNames = ["orders"] ∧
      ((empty.createTopics wanted).publish 0 r).1 = .ok () ∧
      ((failed.2.createTopics wanted).publish 0 r).1 =
        .error (.publish (.outOfRange 2 "orders" 1)) := by
  decide +kernel

end Broker

end Redelivery
