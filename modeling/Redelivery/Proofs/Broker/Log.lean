import Mathlib.Data.List.Nodup
import Mathlib.Data.List.Perm.Basic
import Mathlib.Tactic.ByContra
import Redelivery.Broker.Consumer

/-!
# Broker — the logs of a broker only grow

A record is kept at a `Place`: a partition of a topic and an offset there.  The operations of a
broker are seen through `Broker.log` and `Broker.cursor`.

* `publish_cases`: a publication either fails and leaves all logs alone, or it puts one entry at
  the end of one log, in the partition that was asked for if one was.
* `cursors_publish`, `cursors_createTopics`: neither moves a cursor.
* `gained_of_log_eq`, `gained_append`: `Broker.gained` lists the places that a change has added:
  none if the logs are the same, and the one new place if one log is longer by an entry.

A broker that came about by its own operations is `Broker.Regular`: no topic is listed twice, and
each has a partition.
-/

namespace Redelivery

/-- Where a record is kept. -/
structure Place where
  topic : String
  partition : Nat
  offset : Nat
  deriving Repr, DecidableEq

/-- Where a record that was handed out is kept. -/
def Record.place (r : Record) : Place := ⟨r.topic, r.partition.toNat, r.offset.toNat⟩

namespace Table

variable {κ ν : Type} [DecidableEq κ]

theorem keys_put (k : κ) (v : ν) (l : List (κ × ν)) :
    (put k v l).map Prod.fst =
      if k ∈ l.map Prod.fst then l.map Prod.fst else l.map Prod.fst ++ [k] := by
  induction l with
  | nil => simp [put]
  | cons e l ih =>
      obtain ⟨a, w⟩ := e
      by_cases ha : a = k
      · simp [put, ha]
      · have hk : ¬ k = a := fun e => ha e.symm
        simp only [put, ha, if_false, List.map_cons, ih, List.mem_cons, hk, false_or]
        split <;> simp

theorem keys_set (t : Table κ ν) (k : κ) (v : ν) :
    (t.set k v).keys = if k ∈ t.keys then t.keys else t.keys ++ [k] :=
  keys_put k v t.entries

end Table

namespace Broker

/-- The entry at a place. -/
def entryAt? (b : Broker) (x : Place) : Option Entry := (b.log x.topic x.partition)[x.offset]?

/-- No topic is listed twice, and each has a partition. -/
structure Regular (b : Broker) : Prop where
  nodup_topics : b.topicNames.Nodup
  partitions_ne_nil : ∀ t, t ∈ b.topicNames → b.partitions t ≠ []

theorem Regular.congr {b b' : Broker} (h : b.Regular) (ht : b'.topics = b.topics) :
    b'.Regular := by
  constructor
  · rw [topicNames, ht]; exact h.nodup_topics
  · intro t hm
    rw [topicNames, ht] at hm
    rw [partitions, ht]
    exact h.partitions_ne_nil t hm

theorem log_congr {b b' : Broker} (ht : b'.topics = b.topics) (t : String) (p : Nat) :
    b'.log t p = b.log t p := by
  rw [log, partitions, ht]; rfl

/-! ### Cursors -/

@[simp] theorem log_announce (b : Broker) (t : String) (p : Nat) :
    b.announce.log t p = b.log t p := rfl

@[simp] theorem cursor_announce (b : Broker) (id : CursorId) :
    b.announce.cursor id = b.cursor id := rfl

theorem cursor_setCursor (b : Broker) (id k : CursorId) (c : Cursor) :
    (b.setCursor id c).cursor k = if k = id then c else b.cursor k := by
  simp only [cursor, setCursor, Table.get?_set]
  split <;> rfl

theorem cursor_congr {b b' : Broker} (h : b'.cursors = b.cursors) (id : CursorId) :
    b'.cursor id = b.cursor id := by
  rw [cursor, h, cursor]

/-! ### Creating topics -/

theorem partitions_eq_nil {b : Broker} {t : String} (h : b.topics.get? t = none) :
    b.partitions t = [] := by
  rw [partitions, h]; rfl

theorem mem_topicNames (b : Broker) (t : String) :
    t ∈ b.topicNames ↔ (b.topics.get? t).isSome :=
  Table.mem_keys_iff b.topics t

theorem partitions_ensureTopic (b : Broker) (t t' : String) (n : Int) :
    (b.ensureTopic t n).partitions t' =
      if t' = t ∧ t ∉ b.topicNames then List.replicate (max n 1).toNat []
      else b.partitions t' := by
  unfold ensureTopic
  cases h : b.topics.get? t with
  | some logs => simp [mem_topicNames, h]
  | none =>
      simp only [partitions, Table.get?_set, mem_topicNames, h]
      by_cases e : t' = t
      · simp [e]
      · simp [e]

@[simp] theorem log_ensureTopic (b : Broker) (t t' : String) (n : Int) (p : Nat) :
    (b.ensureTopic t n).log t' p = b.log t' p := by
  unfold log
  rw [partitions_ensureTopic]
  split
  · rename_i h
    obtain ⟨rfl, h⟩ := h
    have hnil : b.partitions t' = [] :=
      partitions_eq_nil (by simpa [mem_topicNames] using h)
    rw [hnil, List.getElem?_replicate]
    split <;> simp
  · rfl

@[simp] theorem cursors_ensureTopic (b : Broker) (t : String) (n : Int) :
    (b.ensureTopic t n).cursors = b.cursors := by
  unfold ensureTopic; split <;> rfl

theorem topicNames_ensureTopic (b : Broker) (t : String) (n : Int) :
    (b.ensureTopic t n).topicNames =
      if t ∈ b.topicNames then b.topicNames else b.topicNames ++ [t] := by
  unfold ensureTopic
  cases h : b.topics.get? t with
  | some logs => simp [mem_topicNames, h]
  | none => exact Table.keys_set _ _ _

theorem mem_topicNames_ensureTopic (b : Broker) (t : String) (n : Int) :
    t ∈ (b.ensureTopic t n).topicNames := by
  rw [topicNames_ensureTopic]
  split <;> simp_all

theorem Regular.ensureTopic {b : Broker} (h : b.Regular) (t : String) (n : Int) :
    (b.ensureTopic t n).Regular := by
  constructor
  · rw [topicNames_ensureTopic]
    split
    · exact h.nodup_topics
    · rename_i ht
      exact List.nodup_append.mpr
        ⟨h.nodup_topics, by simp, by rintro a ha b hb rfl; simp_all⟩
  · intro t' ht'
    rw [partitions_ensureTopic]
    split
    · intro e
      have := congrArg List.length e
      simp only [List.length_replicate, List.length_nil] at this
      omega
    · rename_i hne
      refine h.partitions_ne_nil t' ?_
      rw [topicNames_ensureTopic] at ht'
      split at ht'
      · exact ht'
      · rcases List.mem_append.mp ht' with h' | h'
        · exact h'
        · exact absurd ⟨List.mem_singleton.mp h', by assumption⟩ hne

theorem cursors_createTopics (b : Broker) (requests : List TopicRequest) :
    (b.createTopics requests).cursors = b.cursors := by
  unfold createTopics
  induction requests generalizing b with
  | nil => rfl
  | cons r rest ih => rw [List.foldl_cons, ih]; exact cursors_ensureTopic b r.name r.partitions

theorem log_createTopics (b : Broker) (requests : List TopicRequest) (t : String) (p : Nat) :
    (b.createTopics requests).log t p = b.log t p := by
  unfold createTopics
  induction requests generalizing b with
  | nil => rfl
  | cons r rest ih => rw [List.foldl_cons, ih]; exact log_ensureTopic b r.name t r.partitions p

theorem Regular.createTopics {b : Broker} (h : b.Regular) (requests : List TopicRequest) :
    (b.createTopics requests).Regular := by
  unfold Broker.createTopics
  induction requests generalizing b with
  | nil => exact h
  | cons r rest ih =>
      refine ih ?_
      have := h.ensureTopic r.name r.partitions
      exact ⟨this.1, this.2⟩

/-! ### Publishing -/

theorem log_append {b : Broker} {t : String} {p : Nat} (hp : p < b.partitionCount t) (e : Entry)
    (t' : String) (q : Nat) :
    (b.append t p e).log t' q =
      if t' = t ∧ q = p then b.log t p ++ [e] else b.log t' q := by
  unfold append log
  simp only [partitions, Table.get?_set]
  by_cases ht : t' = t
  · subst ht
    by_cases hq : q = p
    · subst hq
      have : q < ((b.topics.get? t').getD []).length := hp
      simp [this]
    · simp [hq, Ne.symm hq]
  · simp [ht]

theorem partitionForKey_lt (key : Option Bytes) {n : Nat} (hn : 0 < n) :
    partitionForKey key n < n := by
  unfold partitionForKey
  split
  · split
    · exact Nat.mod_lt _ hn
    · exact hn
  · exact hn

theorem choosePartition_lt {r : Outgoing} {n p : Nat} (hn : 0 < n)
    (h : choosePartition r n = .ok p) : p < n ∧ ∀ q, r.partition = some q → q = p := by
  unfold choosePartition at h
  split at h
  · rename_i hr
    cases h
    exact ⟨partitionForKey_lt _ hn, by simp [hr]⟩
  · rename_i q hr
    split at h
    · cases h
      exact ⟨by omega, fun q' hq' => by rw [hr] at hq'; cases hq'; omega⟩
    · cases h

theorem cursors_publish (b : Broker) (now : Instant) (r : Outgoing) :
    (b.publish now r).2.cursors = b.cursors := by
  unfold publish
  split
  · rfl
  · dsimp only
    split
    · exact cursors_ensureTopic b r.topic 1
    · exact cursors_ensureTopic b r.topic 1

/-- The entry that a record to publish becomes. -/
def entryOf (now : Instant) (r : Outgoing) : Entry := ⟨r.key, r.payload, r.headers, now⟩

/-- **A publication, seen through the logs.**  It fails and leaves all logs alone, or it puts its
entry at the end of one log of its topic, of the partition that it asks for if it asks for one. -/
theorem publish_cases {b : Broker} (hb : b.Regular) (now : Instant) (r : Outgoing) :
    (∃ e, (b.publish now r).1 = .error e ∧ ∀ t p, (b.publish now r).2.log t p = b.log t p) ∨
    ∃ p : Nat, (b.publish now r).1 = .ok () ∧ (∀ q : Int, r.partition = some q → q = p) ∧
      ∀ t (q : Nat), (b.publish now r).2.log t q =
        if t = r.topic ∧ q = p then b.log r.topic p ++ [entryOf now r] else b.log t q := by
  unfold publish
  split
  · exact .inl ⟨_, rfl, fun _ _ => rfl⟩
  · dsimp only
    have hpos : 0 < (b.ensureTopic r.topic 1).partitionCount r.topic :=
      List.length_pos_iff.mpr ((hb.ensureTopic r.topic 1).partitions_ne_nil _
        (mem_topicNames_ensureTopic b r.topic 1))
    split
    · exact .inl ⟨_, rfl, fun t p => log_ensureTopic b r.topic t 1 p⟩
    · rename_i p hp
      obtain ⟨hlt, hq⟩ := choosePartition_lt hpos hp
      refine .inr ⟨p, rfl, hq, fun t q => ?_⟩
      rw [log_announce, log_append hlt]
      simp only [log_ensureTopic, entryOf]

theorem topicNames_append (b : Broker) (t : String) (p : Nat) (e : Entry) :
    (b.append t p e).topicNames =
      if t ∈ b.topicNames then b.topicNames else b.topicNames ++ [t] :=
  Table.keys_set b.topics t ((b.partitions t).modify p (· ++ [e]))

theorem Regular.append {b : Broker} (h : b.Regular) {t : String} (ht : t ∈ b.topicNames) (p : Nat)
    (e : Entry) : (b.append t p e).Regular := by
  have hnames : (b.append t p e).topicNames = b.topicNames :=
    (topicNames_append b t p e).trans (if_pos ht)
  constructor
  · rw [hnames]; exact h.nodup_topics
  · intro t' ht' hnil
    rw [hnames] at ht'
    simp only [Broker.append, partitions, Table.get?_set] at hnil
    split at hnil
    · have hlen := congrArg List.length hnil
      simp only [Option.getD_some, List.length_modify, List.length_nil] at hlen
      exact h.partitions_ne_nil t ht (List.length_eq_zero_iff.mp hlen)
    · exact h.partitions_ne_nil t' ht' hnil

theorem Regular.publish {b : Broker} (h : b.Regular) (now : Instant) (r : Outgoing) :
    (b.publish now r).2.Regular := by
  unfold Broker.publish
  split
  · exact ⟨h.1, h.2⟩
  · dsimp only
    have h' := h.ensureTopic r.topic 1
    split
    · exact h'
    · rename_i p _
      have := h'.append (mem_topicNames_ensureTopic b r.topic 1) p
        ⟨r.key, r.payload, r.headers, now⟩
      exact ⟨this.1, this.2⟩

theorem regular_empty : empty.Regular :=
  ⟨List.nodup_nil, fun t ht => by simp [topicNames, empty, Table.keys, Table.empty] at ht⟩

/-! ### The places of a broker -/

/-- All places that hold an entry. -/
def places (b : Broker) : List Place :=
  b.topicNames.flatMap fun t => (b.partitions t).zipIdx.flatMap fun (log, p) =>
    (List.range log.length).map fun o => ⟨t, p, o⟩

/-- The places that hold an entry in `b'` and none in `b`. -/
def gained (b b' : Broker) : List Place := b'.places.filter fun x => (b.entryAt? x).isNone

theorem log_eq_nil {b : Broker} {t : String} (h : t ∉ b.topicNames) (p : Nat) :
    b.log t p = [] := by
  rw [mem_topicNames] at h
  rw [log, partitions_eq_nil (by simpa using h)]
  rfl

theorem isSome_entryAt? (b : Broker) (x : Place) :
    (b.entryAt? x).isSome ↔ x.offset < (b.log x.topic x.partition).length := by
  simp [entryAt?]

theorem mem_places (b : Broker) (x : Place) : x ∈ b.places ↔ (b.entryAt? x).isSome := by
  obtain ⟨t, p, o⟩ := x
  rw [isSome_entryAt?]
  simp only [places, List.mem_flatMap, List.mem_map, List.mem_range, Place.mk.injEq,
    List.mem_zipIdx_iff_getElem?, Prod.exists]
  constructor
  · rintro ⟨t', -, log, p', hlog, o', ho', rfl, rfl, rfl⟩
    simpa [Broker.log, hlog] using ho'
  · intro ho
    have ht : t ∈ b.topicNames := by
      by_contra hn
      simp [log_eq_nil hn] at ho
    cases hlog : (b.partitions t)[p]? with
    | none => simp [Broker.log, hlog] at ho
    | some log =>
        exact ⟨t, ht, log, p, hlog, o, by simpa [Broker.log, hlog] using ho, rfl, rfl, rfl⟩

theorem nodup_places {b : Broker} (h : b.Regular) : b.places.Nodup := by
  refine List.nodup_flatMap.mpr ⟨fun t _ => List.nodup_flatMap.mpr ⟨fun x _ => ?_, ?_⟩, ?_⟩
  · exact List.Nodup.map (fun a c e => by simpa using e) List.nodup_range
  · refine List.Pairwise.imp_of_mem (fun {x y} hx hy hne => ?_)
      (List.Nodup.of_map Prod.snd (by rw [List.zipIdx_map_snd]; exact List.nodup_range'))
    rintro z hz hz'
    simp only [List.mem_map] at hz hz'
    obtain ⟨o, -, rfl⟩ := hz
    obtain ⟨o', -, e⟩ := hz'
    simp only [Place.mk.injEq] at e
    rw [List.mem_zipIdx_iff_getElem?] at hx hy
    -- two logs at one position are the same
    refine hne (Prod.ext ?_ e.2.1.symm)
    rw [e.2.1, hx] at hy
    exact Option.some.inj hy
  · refine List.Pairwise.imp (fun {t t'} hne => ?_) h.nodup_topics
    rintro z hz hz'
    simp only [List.mem_flatMap, List.mem_map] at hz hz'
    obtain ⟨_, -, _, -, rfl⟩ := hz
    obtain ⟨_, -, _, -, e⟩ := hz'
    exact hne (Place.mk.inj e).1.symm

theorem mem_gained (b b' : Broker) (x : Place) :
    x ∈ gained b b' ↔ (b'.entryAt? x).isSome ∧ b.entryAt? x = none := by
  simp [gained, mem_places]

theorem gained_of_log_eq {b b' : Broker} (h : ∀ t p, b'.log t p = b.log t p) :
    gained b b' = [] := by
  refine List.eq_nil_iff_forall_not_mem.mpr fun x hx => ?_
  obtain ⟨hs, hn⟩ := (mem_gained b b' x).mp hx
  rw [entryAt?, h, ← entryAt?, hn] at hs
  cases hs

theorem gained_append {b b' : Broker} (hb : b'.Regular) {t : String} {p : Nat} {e : Entry}
    (h : ∀ t' q, b'.log t' q = if t' = t ∧ q = p then b.log t p ++ [e] else b.log t' q) :
    gained b b' = [⟨t, p, (b.log t p).length⟩] := by
  refine List.perm_singleton.mp ((List.perm_ext_iff_of_nodup ((nodup_places hb).filter _)
    (List.nodup_singleton _)).mpr fun x => ?_)
  obtain ⟨t', q, o⟩ := x
  rw [← gained, mem_gained, isSome_entryAt?, entryAt?, h]
  by_cases hx : t' = t ∧ q = p
  · obtain ⟨rfl, rfl⟩ := hx
    simp
    omega
  · simp only [hx, if_false, List.mem_singleton, Place.mk.injEq]
    constructor
    · rintro ⟨h₁, h₂⟩
      simp at h₂
      omega
    · rintro ⟨rfl, rfl, -⟩
      exact absurd ⟨rfl, rfl⟩ hx

end Broker

end Redelivery
