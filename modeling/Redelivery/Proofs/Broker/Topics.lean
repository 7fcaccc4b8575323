import Redelivery.Proofs.Broker.Log

/-!
# Broker — topics outlast changes

A topic that exists goes on existing, and has as many partitions as before, whatever is published
and whatever topics are created (`Broker.KeepsTopics`).

**Requests** (`hosts_createTopics`).  After topics were created that differ in their names, each of
them has the partitions that it was to have, or those that it had when it existed already
(`Broker.Hosts`).  A publication to a partition that a topic has is only ever refused on purpose
(`fst_publish`).
-/

namespace Redelivery

namespace Broker

variable {b b' b'' : Broker} {t : String}

/-- The topics of the one broker exist in the other, with their partitions. -/
structure KeepsTopics (b b' : Broker) : Prop where
  mem : ∀ t ∈ b.topicNames, t ∈ b'.topicNames
  partitionCount : ∀ t ∈ b.topicNames, b'.partitionCount t = b.partitionCount t

/-- The topic of a request exists and has as many partitions. -/
structure Hosts (b : Broker) (r : TopicRequest) : Prop where
  mem : r.name ∈ b.topicNames
  partitions_le : r.partitions ≤ b.partitionCount r.name

theorem KeepsTopics.of_topics_eq (h : b'.topics = b.topics) : b.KeepsTopics b' where
  mem t ht := by rwa [topicNames, h]
  partitionCount t _ := by rw [Broker.partitionCount, partitions, h]; rfl

theorem KeepsTopics.refl (b : Broker) : b.KeepsTopics b := .of_topics_eq rfl

theorem KeepsTopics.trans (h : b.KeepsTopics b') (h' : b'.KeepsTopics b'') :
    b.KeepsTopics b'' where
  mem t ht := h'.mem t (h.mem t ht)
  partitionCount t ht := (h'.partitionCount t (h.mem t ht)).trans (h.partitionCount t ht)

theorem Hosts.mono {r : TopicRequest} (hr : b.Hosts r) (h : b.KeepsTopics b') : b'.Hosts r where
  mem := h.mem _ hr.mem
  partitions_le := h.partitionCount _ hr.mem ▸ hr.partitions_le

/-! ### Creating topics -/

theorem keepsTopics_ensureTopic (b : Broker) (t : String) (n : Int) :
    b.KeepsTopics (b.ensureTopic t n) where
  mem t' ht' := by
    rw [topicNames_ensureTopic]
    split
    · exact ht'
    · exact List.mem_append_left _ ht'
  partitionCount t' ht' := by
    rw [Broker.partitionCount, partitions_ensureTopic, if_neg, Broker.partitionCount]
    rintro ⟨rfl, hnot⟩
    exact hnot ht'

theorem keepsTopics_createTopics (b : Broker) (requests : List TopicRequest) :
    b.KeepsTopics (b.createTopics requests) := by
  unfold createTopics
  induction requests generalizing b with
  | nil => exact .refl b
  | cons r rest ih =>
      refine .trans ?_ (ih _)
      exact (b.keepsTopics_ensureTopic r.name r.partitions).trans (.of_topics_eq rfl)

/-- A topic that was to exist does, as it was asked for or as it was before. -/
theorem hosts_ensureTopic {r : TopicRequest}
    (h : r.name ∈ b.topicNames → r.partitions ≤ b.partitionCount r.name) :
    (b.ensureTopic r.name r.partitions).Hosts r where
  mem := mem_topicNames_ensureTopic b r.name r.partitions
  partitions_le := by
    rw [partitionCount, partitions_ensureTopic]
    split
    · rw [List.length_replicate]
      omega
    · rename_i hnot
      exact h (by simpa using hnot)

/-- Nothing is changed by another topic that is to exist. -/
theorem ensureTopic_of_ne {n : Int} {t' : String} (hne : t' ≠ t) :
    (t' ∈ (b.ensureTopic t n).topicNames ↔ t' ∈ b.topicNames) ∧
      (b.ensureTopic t n).partitionCount t' = b.partitionCount t' := by
  constructor
  · rw [topicNames_ensureTopic]
    split
    · rfl
    · simp [hne]
  · rw [partitionCount, partitions_ensureTopic, if_neg fun h => hne h.1, partitionCount]

/-- **Requests** for topics of different names, none of which exists with fewer partitions. -/
theorem hosts_createTopics {requests : List TopicRequest}
    (hn : (requests.map TopicRequest.name).Nodup)
    (h : ∀ r ∈ requests, r.name ∈ b.topicNames → r.partitions ≤ b.partitionCount r.name) :
    ∀ r ∈ requests, (b.createTopics requests).Hosts r := by
  induction requests generalizing b with
  | nil => simp
  | cons x rest ih =>
      obtain ⟨hx, hn⟩ := List.nodup_cons.mp hn
      -- the broker after the first request
      let next : Broker :=
        { b.ensureTopic x.name x.partitions with requested := b.requested ++ [x] }
      have hfirst : next.Hosts x :=
        (hosts_ensureTopic (h x (List.mem_cons_self ..))).mono (.of_topics_eq rfl)
      intro r hr
      change (next.createTopics rest).Hosts r
      rcases List.mem_cons.mp hr with rfl | hr
      · exact hfirst.mono (keepsTopics_createTopics next rest)
      · refine ih hn (fun y hy hmem => ?_) r hr
        have hne : y.name ≠ x.name := fun e => hx (e ▸ List.mem_map_of_mem hy)
        obtain ⟨hiff, hcount⟩ := ensureTopic_of_ne (b := b) (n := x.partitions) hne
        change y.partitions ≤ (b.ensureTopic x.name x.partitions).partitionCount y.name
        rw [hcount]
        exact h y (List.mem_cons_of_mem _ hy) (hiff.mp hmem)

/-! ### Publishing -/

theorem keepsTopics_append (b : Broker) (t : String) (p : Nat) (e : Entry) :
    b.KeepsTopics (b.append t p e) where
  mem t' ht' := by
    rw [topicNames_append]
    split
    · exact ht'
    · exact List.mem_append_left _ ht'
  partitionCount t' _ := by
    simp only [Broker.partitionCount, append, partitions, Table.get?_set]
    split
    · rename_i heq
      rw [heq, Option.getD_some, List.length_modify]
    · rfl

theorem keepsTopics_publish (b : Broker) (now : Instant) (r : Outgoing) :
    b.KeepsTopics (b.publish now r).2 := by
  unfold publish
  split
  · exact .of_topics_eq rfl
  · dsimp only
    have hensure := b.keepsTopics_ensureTopic r.topic 1
    split
    · exact hensure
    · exact (hensure.trans (keepsTopics_append ..)).trans (.of_topics_eq rfl)

/-- A publication brings no other topic into being than its own. -/
theorem mem_topicNames_publish {now : Instant} {r : Outgoing}
    (h : t ∈ (b.publish now r).2.topicNames) : t ∈ b.topicNames ∨ t = r.topic := by
  have hensure : ∀ {t'}, t' ∈ (b.ensureTopic r.topic 1).topicNames →
      t' ∈ b.topicNames ∨ t' = r.topic := by
    intro t' ht'
    rw [topicNames_ensureTopic] at ht'
    split at ht'
    · exact .inl ht'
    · simpa using ht'
  unfold publish at h
  split at h
  · exact .inl h
  · dsimp only at h
    split at h
    · exact hensure h
    · rename_i p _
      change t ∈ ((b.ensureTopic r.topic 1).append r.topic p _).topicNames at h
      rw [topicNames_append, if_pos (mem_topicNames_ensureTopic b r.topic 1)] at h
      exact hensure h

theorem ensureTopic_of_mem (h : t ∈ b.topicNames) (n : Int) : b.ensureTopic t n = b := by
  obtain ⟨logs, hlogs⟩ := Option.isSome_iff_exists.mp ((mem_topicNames b t).mp h)
  simp only [ensureTopic, hlogs]

/-- **A publication** to a topic that exists, and to a partition that is there if one is named,
fails only when publications are refused on purpose. -/
theorem fst_publish {r : Outgoing} (h : r.topic ∈ b.topicNames)
    (hp : ∀ q, r.partition = some q → 0 ≤ q ∧ q.toNat < b.partitionCount r.topic)
    (now : Instant) : (b.publish now r).1 =
      if b.refusing = 0 then .ok () else .error (.publish (.injected r.topic)) := by
  have hchoose : ∃ p, choosePartition r (b.partitionCount r.topic) = .ok p := by
    unfold choosePartition
    split
    · exact ⟨_, rfl⟩
    · rename_i q hq
      exact ⟨_, if_pos (hp q hq)⟩
  obtain ⟨p, hp⟩ := hchoose
  unfold publish
  cases hrefuse : b.refusing with
  | succ n => rfl
  | zero =>
      dsimp only
      rw [ensureTopic_of_mem h, hp]
      rfl

end Broker

end Redelivery
