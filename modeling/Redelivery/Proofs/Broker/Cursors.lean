import Mathlib.Data.List.Induction
import Redelivery.Proofs.Broker.Session

/-!
# Broker — where the groups are

In every session each cursor is that of a group that has acknowledged the first `k` records of the
partition and, if it is in flight, holds record `k` (`Cursor.after`).  What has happened to the
records of the partition in the group is a `Course`: record after record is taken, given back and
taken again any number of times, and acknowledged once.

`Session.Sound` ties the cursors, what the members hold, and the history together.  Every operation
keeps it (`Sound.perform`); the operations that let go of records share one lemma
(`replaces_letGo`).
-/

namespace Redelivery

/-- The cursor of a group that has acknowledged the first `k` records, and holds the next one if
`inFlight`. -/
def Cursor.after (k : Nat) (inFlight : Bool) : Cursor where
  next := k + (if inFlight then 1 else 0)
  committed := k
  inFlight := inFlight

/-- What has happened to the records of a partition in a group that has acknowledged the first `k`
of them, and holds the next one if the second argument says so. -/
inductive Course : Nat → Bool → List Handling → Prop where
  | start : Course 0 false []
  | take {k : Nat} {l : List Handling} {h : Handling} (c : Course k false l)
      (hd : h.deed = .taken) (ho : h.record.offset = k) : Course k true (l ++ [h])
  | acknowledge {k : Nat} {l : List Handling} {h : Handling} (c : Course k true l)
      (hd : h.deed = .acknowledged) (ho : h.record.offset = k) : Course (k + 1) false (l ++ [h])
  | giveBack {k : Nat} {l : List Handling} {h : Handling} (c : Course k true l)
      (hd : h.deed = .givenBack) (ho : h.record.offset = k) : Course k false (l ++ [h])

namespace Session

/-- Cursors, members and history agree. -/
structure Sound (s : Session) : Prop where
  regular : s.broker.Regular
  /-- All records that were handled are in the broker. -/
  kept : ∀ h ∈ s.history, s.broker.Keeps h.record
  /-- Each cursor is where the history says, within the log, and in flight only if a member holds
  the record. -/
  cursor : ∀ id, ∃ k f, s.broker.cursor id = .after k f ∧
    (s.broker.cursor id).next ≤ (s.broker.log id.topic id.partition.toNat).length ∧
    Course k f (s.historyOf id) ∧ (f = true → ∃ i r, s.Holds i id r)
  /-- A record that is held is the one at the cursor. -/
  held : ∀ {i id r}, s.Holds i id r → s.broker.Keeps r ∧
    (s.broker.cursor id).inFlight = true ∧ r.offset = (s.broker.cursor id).committed
  /-- A partition's record is held by one member of a group at most. -/
  alone : ∀ {i j id r r'}, s.Holds i id r → s.Holds j id r' → i = j
  nodup : ∀ {i : Nat} {m : Member}, s.members[i]? = some m → m.records.Nodup
  /-- The consumer keeps a list of the partitions of what is held. -/
  listed : ∀ {i : Nat} {m : Member}, s.members[i]? = some m →
    m.consumer.held = m.records.map fun r => (r.topic, r.partition)

theorem sound_empty : Sound {} where
  regular := Broker.regular_empty
  kept := by simp
  cursor id :=
    ⟨0, false, rfl, by simp [Broker.cursor, Broker.empty, Table.get?_empty], .start, by simp⟩
  held := by rintro i id r ⟨m, hm, -⟩; simp at hm
  alone := by rintro i j id r r' ⟨m, hm, -⟩; simp at hm
  nodup := by simp
  listed := by simp

/-- What is held of a partition in a group is one record. -/
theorem Sound.eq_of_holds {s : Session} (hs : s.Sound) {i j : Nat} {id : CursorId} {r r' : Record}
    (h : s.Holds i id r) (h' : s.Holds j id r') : r = r' := by
  obtain ⟨hk, -, ho⟩ := hs.held h
  obtain ⟨hk', -, ho'⟩ := hs.held h'
  obtain ⟨m, -, -, rfl⟩ := h
  obtain ⟨m', -, -, e⟩ := h'
  simp only [Member.cursorId, CursorId.mk.injEq] at e
  exact hk.eq hk' e.2.1.symm e.2.2.symm (ho.trans ho'.symm)

theorem Sound.eq_of_cursorId {s : Session} (hs : s.Sound) {i : Nat} {m : Member} {r r' : Record}
    (hm : s.members[i]? = some m) (h : r ∈ m.records) (h' : r' ∈ m.records)
    (e : m.cursorId r' = m.cursorId r) : r' = r :=
  hs.eq_of_holds ⟨m, hm, h', e⟩ ⟨m, hm, h, rfl⟩

/-! ### Outside operations -/

/-- **Growing logs.**  A change that only lengthens logs keeps a session sound. -/
theorem Sound.grow {s : Session} (hs : s.Sound) {b : Broker} (hb : b.Regular)
    (hc : b.cursors = s.broker.cursors) (hl : s.broker.Extends b) :
    Sound { s with broker := b } where
  regular := hb
  kept h hh := (hs.kept h hh).mono hl
  cursor id := by
    obtain ⟨k, f, h₁, h₂, h₃, h₄⟩ := hs.cursor id
    refine ⟨k, f, (Broker.cursor_congr hc id).trans h₁, ?_, h₃, h₄⟩
    have := (hl id.topic id.partition.toNat).length_le
    rw [Broker.cursor_congr hc id]
    dsimp only
    omega
  held h := by
    obtain ⟨h₁, h₂, h₃⟩ := hs.held h
    exact ⟨h₁.mono hl, by rwa [Broker.cursor_congr hc], by rwa [Broker.cursor_congr hc]⟩
  alone := hs.alone
  nodup := hs.nodup
  listed := hs.listed

theorem member_concat {l : List Member} {n m : Member} {i : Nat}
    (h : (l ++ [n])[i]? = some m) : l[i]? = some m ∨ m = n := by
  rw [List.getElem?_append] at h
  split at h
  · exact .inl h
  · exact .inr (List.mem_singleton.mp (List.mem_of_getElem? h))

theorem holds_concat {s : Session} {n : Member} (hn : n.records = []) {i : Nat} {id : CursorId}
    {r : Record} :
    Holds { s with members := s.members ++ [n] } i id r ↔ s.Holds i id r := by
  constructor
  · rintro ⟨m, hm, hr, hid⟩
    rcases member_concat hm with hm | rfl
    · exact ⟨m, hm, hr, hid⟩
    · simp [hn] at hr
  · rintro ⟨m, hm, hr, hid⟩
    refine ⟨m, ?_, hr, hid⟩
    have hi : i < s.members.length := (List.getElem?_eq_some_iff.mp hm).1
    exact (List.getElem?_append_left hi).trans hm

/-- A member that joins holds nothing. -/
theorem Sound.join {s : Session} (hs : s.Sound) {n : Member} (hr : n.records = [])
    (hc : n.consumer.held = []) : Sound { s with members := s.members ++ [n] } where
  regular := hs.regular
  kept := hs.kept
  cursor id := by
    obtain ⟨k, f, h₁, h₂, h₃, h₄⟩ := hs.cursor id
    refine ⟨k, f, h₁, h₂, h₃, fun hf => ?_⟩
    obtain ⟨i, r, h⟩ := h₄ hf
    exact ⟨i, r, (holds_concat hr).mpr h⟩
  held h := hs.held ((holds_concat hr).mp h)
  alone h h' := hs.alone ((holds_concat hr).mp h) ((holds_concat hr).mp h')
  nodup hm := by
    rcases member_concat hm with hm | rfl
    · exact hs.nodup hm
    · simp [hr]
  listed hm := by
    rcases member_concat hm with hm | rfl
    · exact hs.listed hm
    · simp [hr, hc]

/-! ### Operations of members -/

/-- What a list has where, after one of its members has changed. -/
theorem member_set {α : Type} {l : List α} {m n x : α} {i j : Nat} (hm : l[i]? = some m) :
    (l.set i n)[j]? = some x ↔ j = i ∧ x = n ∨ j ≠ i ∧ l[j]? = some x := by
  have hi : i < l.length := (List.getElem?_eq_some_iff.mp hm).1
  rw [List.getElem?_set]
  by_cases e : i = j
  · subst e
    simp [hi, eq_comm]
  · simp [e, Ne.symm e]

theorem holds_set {s : Session} {m n : Member} {b : Broker} {l : List Handling} {i j : Nat}
    {id : CursorId} {r : Record} (hm : s.members[i]? = some m) :
    Holds ⟨b, s.members.set i n, l⟩ j id r ↔
      j = i ∧ r ∈ n.records ∧ n.cursorId r = id ∨ j ≠ i ∧ s.Holds j id r := by
  simp only [Holds, member_set hm]
  constructor
  · rintro ⟨x, ⟨rfl, rfl⟩ | ⟨hj, hx⟩, hr, hid⟩
    · exact .inl ⟨rfl, hr, hid⟩
    · exact .inr ⟨hj, x, hx, hr, hid⟩
  · rintro (⟨rfl, hr, hid⟩ | ⟨hj, x, hx, hr, hid⟩)
    · exact ⟨n, .inl ⟨rfl, rfl⟩, hr, hid⟩
    · exact ⟨x, .inr ⟨hj, hx⟩, hr, hid⟩

/-- What an operation of member `m`, who becomes `n`, does to a partition as `m`'s group sees it:
nothing, or a record is taken, or one is acknowledged or given back. -/
inductive Change (b b' : Broker) (m n : Member) (l : List Handling) (id : CursorId) : Prop where
  | none (hc : b'.cursor id = b.cursor id) (hl : l.filter (·.cursorId = id) = [])
      (hn : ∀ r, m.cursorId r = id → (r ∈ n.records ↔ r ∈ m.records))
  | take {k : Nat} {r : Record} (hid : m.cursorId r = id) (hr : b.Keeps r) (ho : r.offset = k)
      (hc : b.cursor id = .after k false) (hc' : b'.cursor id = .after k true)
      (hl : l.filter (·.cursorId = id) = [m.handling .taken r])
      (hn : ∀ r', m.cursorId r' = id → (r' ∈ n.records ↔ r' = r))
  | letGo {k k' : Nat} {r : Record} {deed : Deed} (hid : m.cursorId r = id) (hr : r ∈ m.records)
      (hd : deed = .acknowledged ∧ k' = k + 1 ∨ deed = .givenBack ∧ k' = k)
      (hc : b.cursor id = .after k true) (hc' : b'.cursor id = .after k' false)
      (hl : l.filter (·.cursorId = id) = [m.handling deed r])
      (hn : ∀ r', m.cursorId r' = id → r' ∉ n.records)

/-- The records of a member after an operation, which changes each partition's cursor as `hch`
says and leaves the logs alone. -/
structure Replaces (b b' : Broker) (m n : Member) (l : List Handling) : Prop where
  topics : b'.topics = b.topics
  group : n.consumer.group = m.consumer.group
  nodup : n.records.Nodup
  listed : n.consumer.held = n.records.map fun r => (r.topic, r.partition)
  change : ∀ id, Change b b' m n l id

theorem Replaces.cursorId {b b' : Broker} {m n : Member} {l : List Handling}
    (h : Replaces b b' m n l) (r : Record) : n.cursorId r = m.cursorId r := by
  rw [Member.cursorId, h.group, Member.cursorId]

theorem Replaces.log {b b' : Broker} {m n : Member} {l : List Handling}
    (h : Replaces b b' m n l) (t : String) (p : Nat) : b'.log t p = b.log t p :=
  Broker.log_congr h.topics t p

/-- The holders of a partition's records after an operation of member `i`. -/
theorem holds_replace {s : Session} {b : Broker} {m n : Member} {l h : List Handling} {i j : Nat}
    {id : CursorId} {r : Record} (hm : s.members[i]? = some m)
    (hrep : Replaces s.broker b m n l) :
    Holds ⟨b, s.members.set i n, h⟩ j id r ↔
      j = i ∧ r ∈ n.records ∧ m.cursorId r = id ∨ j ≠ i ∧ s.Holds j id r := by
  rw [holds_set hm, hrep.cursorId]

/-- A cursor whose record is held is in flight. -/
theorem Sound.cursor_ne {s : Session} (hs : s.Sound) {i : Nat} {id : CursorId} {r : Record}
    (h : s.Holds i id r) (k : Nat) : s.broker.cursor id ≠ .after k false := by
  intro e
  have := (hs.held h).2.1
  rw [e] at this
  cases this

/-- What another member holds, an operation does not give to member `i`. -/
theorem Sound.not_mem_of_holds {s : Session} (hs : s.Sound) {i j : Nat} {m n : Member} {b : Broker}
    {l : List Handling} (hm : s.members[i]? = some m) (hrep : Replaces s.broker b m n l)
    {id : CursorId} {r r' : Record} (hj : j ≠ i) (h : s.Holds j id r)
    (hid : m.cursorId r' = id) : r' ∉ n.records := by
  cases hrep.change id with
  | none _ _ hn =>
      rw [hn r' hid]
      exact fun hr' => hj (hs.alone h ⟨m, hm, hr', hid⟩)
  | take _ _ _ hc _ _ _ => exact absurd hc (hs.cursor_ne h _)
  | letGo _ _ _ _ _ _ hn => exact hn r' hid

/-- What is held after an operation is at its cursor. -/
theorem Sound.held_replace {s : Session} (hs : s.Sound) {i j : Nat} {m n : Member} {b : Broker}
    {l h' : List Handling} (hm : s.members[i]? = some m) (hrep : Replaces s.broker b m n l)
    {id : CursorId} {r : Record} (h : Holds ⟨b, s.members.set i n, h'⟩ j id r) :
    s.broker.Keeps r ∧ (b.cursor id).inFlight = true ∧ r.offset = (b.cursor id).committed := by
  rcases (holds_replace hm hrep).mp h with ⟨rfl, hr, hid⟩ | ⟨hj, h⟩
  · cases hrep.change id with
    | none hc _ hn =>
        rw [hc]
        exact hs.held ⟨m, hm, (hn r hid).mp hr, hid⟩
    | take _ hk ho _ hc' _ hn =>
        obtain rfl := (hn r hid).mp hr
        rw [hc']
        exact ⟨hk, rfl, ho⟩
    | letGo _ _ _ _ _ _ hn => exact absurd hr (hn r hid)
  · -- another member's record keeps the partition from being taken or let go of
    cases hrep.change id with
    | none hc _ _ =>
        rw [hc]
        exact hs.held h
    | take _ _ _ hc _ _ _ => exact absurd hc (hs.cursor_ne h _)
    | letGo hid hr' _ _ _ _ _ => exact absurd (hs.alone h ⟨m, hm, hr', hid⟩) hj

/-- The cursors after an operation go with the history. -/
theorem Sound.cursor_replace {s : Session} (hs : s.Sound) {i : Nat} {m n : Member} {b : Broker}
    {l h' : List Handling} (hm : s.members[i]? = some m) (hrep : Replaces s.broker b m n l)
    (id : CursorId) :
    ∃ k f, b.cursor id = .after k f ∧
      (b.cursor id).next ≤ (b.log id.topic id.partition.toNat).length ∧
      Course k f (s.historyOf id ++ l.filter (·.cursorId = id)) ∧
      (f = true → ∃ j r, Holds ⟨b, s.members.set i n, h'⟩ j id r) := by
  obtain ⟨k, f, h₁, h₂, h₃, h₄⟩ := hs.cursor id
  have same : ∀ {k' f'}, s.broker.cursor id = .after k' f' → k' = k ∧ f' = f := by
    intro k' f' e
    rw [h₁] at e
    simp only [Cursor.after, Cursor.mk.injEq] at e
    exact ⟨Int.ofNat_inj.mp e.2.1.symm, e.2.2.symm⟩
  rw [hrep.log]
  cases hrep.change id with
  | none hc hl hn =>
      rw [hl, List.append_nil, hc]
      refine ⟨k, f, h₁, h₂, h₃, fun hf => ?_⟩
      obtain ⟨j, r, h⟩ := h₄ hf
      refine ⟨j, r, (holds_replace hm hrep).mpr ?_⟩
      by_cases hj : j = i
      · subst hj
        obtain ⟨m', hm', hr, hid⟩ := h
        obtain rfl := Option.some.inj (hm.symm.trans hm')
        exact .inl ⟨rfl, (hn r hid).mpr hr, hid⟩
      · exact .inr ⟨hj, h⟩
  | @take k' r hid hr ho hc hc' hl hn =>
      obtain ⟨rfl, rfl⟩ := same hc
      refine ⟨_, true, hc', ?_, hl ▸ h₃.take rfl ho, fun _ => ⟨i, r, (holds_replace hm hrep).mpr
        (.inl ⟨rfl, (hn r hid).mpr rfl, hid⟩)⟩⟩
      -- the record is in the log, so that the log is longer than the cursor says
      obtain ⟨p, o, e, he, hre⟩ := hr
      have hlt := (List.getElem?_eq_some_iff.mp he).1
      rw [hre] at ho
      rw [hc', ← hid, hre]
      simp only [Cursor.after, Member.cursorId, Broker.recordOf, Int.toNat_natCast, if_true]
        at ho ⊢
      omega
  | letGo hid hr hd hc hc' hl hn =>
      obtain ⟨rfl, rfl⟩ := same hc
      have ho := (hs.held ⟨m, hm, hr, rfl⟩).2.2
      rw [hid, hc] at ho
      rw [hc] at h₂
      simp only [Cursor.after, if_true] at h₂
      rw [hc', hl]
      rcases hd with ⟨rfl, rfl⟩ | ⟨rfl, rfl⟩
      · exact ⟨_, false, rfl, by simp [Cursor.after]; omega, h₃.acknowledge rfl ho, by simp⟩
      · exact ⟨_, false, rfl, by simp [Cursor.after]; omega, h₃.giveBack rfl ho, by simp⟩

/-- **An operation of a member keeps a session sound.** -/
theorem Sound.replace {s : Session} (hs : s.Sound) {i : Nat} {m n : Member} {b : Broker}
    {l : List Handling} (hm : s.members[i]? = some m) (hrep : Replaces s.broker b m n l) :
    Sound ⟨b, s.members.set i n, s.history ++ l⟩ where
  regular := hs.regular.congr hrep.topics
  kept h hh := by
    have hext : s.broker.Extends b := .of_log_eq hrep.log
    rcases List.mem_append.mp hh with hh | hh
    · exact (hs.kept h hh).mono hext
    · have hf : h ∈ l.filter (·.cursorId = h.cursorId) := by simpa using hh
      cases hrep.change h.cursorId with
      | none _ hl _ =>
          rw [hl] at hf
          cases hf
      | take _ hr _ _ _ hl _ =>
          rw [hl] at hf
          rw [List.mem_singleton.mp hf]
          exact hr.mono hext
      | letGo _ hr _ _ _ hl _ =>
          rw [hl] at hf
          rw [List.mem_singleton.mp hf]
          exact (hs.held ⟨m, hm, hr, rfl⟩).1.mono hext
  cursor id := by
    have hhist : historyOf ⟨b, s.members.set i n, s.history ++ l⟩ id =
        s.historyOf id ++ l.filter (·.cursorId = id) := List.filter_append ..
    rw [hhist]
    exact hs.cursor_replace hm hrep id
  held h := by
    obtain ⟨h₁, h₂⟩ := hs.held_replace hm hrep h
    exact ⟨h₁.mono (.of_log_eq hrep.log), h₂⟩
  alone h h' := by
    rcases (holds_replace hm hrep).mp h with ⟨rfl, hr, hid⟩ | ⟨hj, hold⟩ <;>
      rcases (holds_replace hm hrep).mp h' with ⟨rfl, hr', hid'⟩ | ⟨hj', hold'⟩
    · rfl
    · exact absurd hr (hs.not_mem_of_holds hm hrep hj' hold' hid)
    · exact absurd hr' (hs.not_mem_of_holds hm hrep hj hold hid')
    · exact hs.alone hold hold'
  nodup hm' := by
    rcases (member_set hm).mp hm' with ⟨-, rfl⟩ | ⟨-, hm'⟩
    · exact hrep.nodup
    · exact hs.nodup hm'
  listed hm' := by
    rcases (member_set hm).mp hm' with ⟨-, rfl⟩ | ⟨-, hm'⟩
    · exact hrep.listed
    · exact hs.listed hm'

/-! ### What each operation does -/

/-- An operation that moves no cursor and takes nothing. -/
theorem replaces_same {s : Session} (hs : s.Sound) {i : Nat} {m : Member}
    (hm : s.members[i]? = some m) {x : Membership} (ht : x.broker.topics = s.broker.topics)
    (hc : x.broker.cursors = s.broker.cursors) (hg : x.consumer.group = m.consumer.group)
    (hl : x.consumer.held = m.consumer.held) :
    Replaces s.broker x.broker m ⟨x.consumer, m.records⟩ [] where
  topics := ht
  group := hg
  nodup := show m.records.Nodup from hs.nodup hm
  listed := hl.trans (hs.listed hm)
  change id := .none (Broker.cursor_congr hc id) rfl fun _ _ => Iff.rfl

theorem replaces_take {s : Session} (hs : s.Sound) {i : Nat} {m : Member}
    (hm : s.members[i]? = some m) {r : Record} {x : Membership}
    (h : (m.membership s.broker).take = (some r, x)) :
    Replaces s.broker x.broker m ⟨x.consumer, m.records ++ [r]⟩ [m.handling .taken r] := by
  obtain ⟨p, e, hfree, hlog, hr, -, hb, hg, -, hl⟩ := Membership.take_eq_some h
  change (s.broker.cursor (m.cursorId r)).inFlight = false at hfree
  obtain ⟨k, f, hc, -⟩ := hs.cursor (m.cursorId r)
  obtain rfl : f = false := by rw [hc] at hfree; exact hfree
  have hk : (s.broker.cursor (m.cursorId r)).next.toNat = k := by simp [hc, Cursor.after]
  change (s.broker.log r.topic p)[(s.broker.cursor (m.cursorId r)).next.toNat]? = some e at hlog
  change r = Broker.recordOf r.topic p (s.broker.cursor (m.cursorId r)).next.toNat e at hr
  rw [hk] at hlog hr
  -- a cursor at rest: nothing of its partition is held
  have hnot : ∀ r', m.cursorId r' = m.cursorId r → r' ∉ m.records := fun r' hid hr' =>
    hs.cursor_ne ⟨m, hm, hr', hid⟩ k hc
  have hcur : ∀ id, x.broker.cursor id =
      if id = m.cursorId r then .after k true else s.broker.cursor id := by
    intro id
    rw [hb, Broker.cursor_setCursor]
    change (if id = m.cursorId r then { s.broker.cursor (m.cursorId r) with
      next := (s.broker.cursor (m.cursorId r)).next + 1, inFlight := true } else _) = _
    rw [hc]
    simp [Cursor.after]
    rfl
  constructor
  · rw [hb]; rfl
  · exact hg
  · exact List.nodup_append.mpr ⟨hs.nodup hm, List.nodup_singleton _, fun a ha b hb e =>
      hnot r rfl (List.mem_singleton.mp hb ▸ e ▸ ha)⟩
  · simp only [hl, List.map_append, ← hs.listed hm]
    rfl
  · intro id
    by_cases hid : m.cursorId r = id
    · subst hid
      refine .take rfl ⟨p, k, e, hlog, hr⟩ (by rw [hr]; rfl) hc (by rw [hcur, if_pos rfl]) ?_
        fun r' hid => ?_
      · exact List.filter_cons_of_pos (decide_eq_true rfl)
      · simp [hnot r' hid]
    · refine .none (by rw [hcur, if_neg (Ne.symm hid)]) ?_ fun r' hr' => ?_
      · exact List.filter_cons_of_neg (fun e => hid (of_decide_eq_true e))
      · have : r' ≠ r := by rintro rfl; exact hid hr'
        simp [this]

theorem replaces_poll {s : Session} (hs : s.Sound) {i : Nat} {m : Member}
    (hm : s.members[i]? = some m) :
    Replaces s.broker (m.poll s.broker).broker m (m.poll s.broker).member
      (m.poll s.broker).handled := by
  unfold Member.poll
  split
  · rename_i r x h
    exact replaces_take hs hm h
  · rename_i x h
    obtain ⟨hb, hx⟩ := Membership.take_eq_none h
    exact replaces_same hs hm (congrArg Broker.topics hb) (congrArg Broker.cursors hb)
      hx.group hx.held

/-- What a deed that ends a record's being held leaves of the cursor. -/
def afterDeed (deed : Deed) (c : Cursor) : Cursor :=
  .after (c.committed.toNat + if deed = .acknowledged then 1 else 0) false

/-- **Letting go of records**: those in `gone` are acknowledged or given back, and the cursors of
their partitions come to rest. -/
theorem replaces_letGo {s : Session} (hs : s.Sound) {i : Nat} {m : Member}
    (hm : s.members[i]? = some m) {gone : List Record} {deed : Deed} (hd : deed ≠ .taken)
    {x : Membership} {records : List Record} (hn : gone.Nodup) (hgone : ∀ r ∈ gone, r ∈ m.records)
    (ht : x.broker.topics = s.broker.topics)
    (hc : ∀ id, x.broker.cursor id = if ∃ r ∈ gone, m.cursorId r = id
      then afterDeed deed (s.broker.cursor id) else s.broker.cursor id)
    (hg : x.consumer.group = m.consumer.group)
    (hr : records = m.records.filter (· ∉ gone))
    (hl : x.consumer.held = records.map fun r => (r.topic, r.partition)) :
    Replaces s.broker x.broker m ⟨x.consumer, records⟩ (gone.map (m.handling deed)) where
  topics := ht
  group := hg
  nodup := hr ▸ (hs.nodup hm).filter _
  listed := hl
  change id := by
    have hfilter : (gone.map (m.handling deed)).filter (·.cursorId = id) =
        (gone.filter (m.cursorId · = id)).map (m.handling deed) := List.filter_map ..
    by_cases h : ∃ r ∈ gone, m.cursorId r = id
    · have hcx := (hc id).trans (if_pos h)
      obtain ⟨r, hrg, hid⟩ := h
      -- `r` is all that the member holds of the partition
      have honly : ∀ r' ∈ m.records, m.cursorId r' = id ↔ r' = r := fun r' hr' =>
        ⟨fun e => hs.eq_of_cursorId hm (hgone r hrg) hr' (e.trans hid.symm), fun e => e ▸ hid⟩
      obtain ⟨k, f, hk, -⟩ := hs.cursor id
      obtain rfl : f = true := by
        have := (hs.held ⟨m, hm, hgone r hrg, hid⟩).2.1
        rw [hk] at this
        exact this
      have hk' : (s.broker.cursor id).committed.toNat = k := by simp [hk, Cursor.after]
      have hlist : gone.filter (m.cursorId · = id) = [r] := by
        rw [List.filter_congr fun r' hr' => decide_eq_decide.mpr (honly r' (hgone r' hr')),
          List.filter_eq, List.count_eq_one_of_mem hn hrg]
        rfl
      have hdeed : deed = .acknowledged ∧
            (s.broker.cursor id).committed.toNat + (if deed = .acknowledged then 1 else 0) = k + 1 ∨
          deed = .givenBack ∧
            (s.broker.cursor id).committed.toNat + (if deed = .acknowledged then 1 else 0) = k := by
        rw [hk']
        cases deed with
        | taken => exact absurd rfl hd
        | acknowledged => exact .inl ⟨rfl, rfl⟩
        | givenBack => exact .inr ⟨rfl, rfl⟩
      refine .letGo hid (hgone r hrg) hdeed hk hcx ?_ fun r' hid' hr' => ?_
      · rw [hfilter, hlist]; rfl
      · rw [hr] at hr'
        obtain ⟨hm', hng⟩ := List.mem_filter.mp hr'
        rw [(honly r' hm').mp hid'] at hng
        simp [hrg] at hng
    · refine .none ((hc id).trans (if_neg h)) ?_ fun r' hid' => ?_
      · have hnone : gone.filter (m.cursorId · = id) = [] :=
          List.filter_eq_nil_iff.mpr fun r' hr' => by simpa using fun e => h ⟨r', hr', e⟩
        rw [hfilter, hnone]
        rfl
      · have : r' ∉ gone := fun hr' => h ⟨r', hr', hid'⟩
        simp [hr, this]

/-- Letting go of one record, whose cursor becomes `c`. -/
theorem replaces_release {s : Session} (hs : s.Sound) {i : Nat} {m : Member}
    (hm : s.members[i]? = some m) {r : Record} (hr : r ∈ m.records) {deed : Deed}
    (hd : deed ≠ .taken) {c : Cursor}
    (hc : c = afterDeed deed (s.broker.cursor (m.cursorId r))) :
    let x := (m.membership s.broker).release r.topic r.partition c
    Replaces s.broker x.broker m ⟨x.consumer, m.records.filter (· ≠ r)⟩ [m.handling deed r] := by
  refine replaces_letGo hs hm hd (List.nodup_singleton r) ?_ rfl ?_ rfl ?_ ?_
  · rintro r' hr'
    rwa [List.mem_singleton.mp hr']
  · intro id
    change ((s.broker.setCursor (m.cursorId r) c).announce).cursor id = _
    rw [Broker.cursor_announce, Broker.cursor_setCursor, hc]
    by_cases hid : m.cursorId r = id
    · subst hid
      simp
    · simp [hid, Ne.symm hid]
  · simp
  · change m.consumer.held.filter _ = _
    rw [hs.listed hm, List.filter_map]
    refine congrArg _ (List.filter_congr fun r' hr' => decide_eq_decide.mpr (not_congr ?_))
    constructor
    · intro e
      obtain ⟨h₁, h₂⟩ := Prod.mk.inj e
      exact hs.eq_of_cursorId hm hr hr' (by rw [Member.cursorId, h₁, h₂, Member.cursorId])
    · rintro rfl
      rfl

/-- The cursor of a record that is held. -/
theorem Sound.cursor_of_mem {s : Session} (hs : s.Sound) {i : Nat} {m : Member}
    (hm : s.members[i]? = some m) {r : Record} (hr : r ∈ m.records) :
    ∃ k : Nat, s.broker.cursor (m.cursorId r) = .after k true ∧ r.offset = k := by
  obtain ⟨k, f, hk, -⟩ := hs.cursor (m.cursorId r)
  obtain ⟨-, hf, ho⟩ := hs.held ⟨m, hm, hr, rfl⟩
  rw [hk] at hf ho
  cases f with
  | false => cases hf
  | true => exact ⟨k, hk, ho⟩

theorem replaces_commit {s : Session} (hs : s.Sound) {i : Nat} {m : Member}
    (hm : s.members[i]? = some m) (r : Record) :
    Replaces s.broker (m.commit r s.broker).broker m (m.commit r s.broker).member
      (m.commit r s.broker).handled := by
  unfold Member.commit
  split
  · rename_i hr
    obtain ⟨k, hk, ho⟩ := hs.cursor_of_mem hm hr
    refine replaces_release hs hm hr (by decide) ?_
    change (⟨max (s.broker.cursor (m.cursorId r)).next (r.offset + 1),
      max (s.broker.cursor (m.cursorId r)).committed (r.offset + 1), false⟩ : Cursor) = _
    have hmax : max (k : Int) (k + 1) = k + 1 := by omega
    rw [hk, ho]
    simp only [Cursor.after, afterDeed, if_true, Int.max_self, hmax]
    rfl
  · exact replaces_same (x := m.membership s.broker) hs hm rfl rfl rfl rfl

theorem replaces_rewind {s : Session} (hs : s.Sound) {i : Nat} {m : Member}
    (hm : s.members[i]? = some m) (r : Record) :
    Replaces s.broker (m.rewind r s.broker).broker m (m.rewind r s.broker).member
      (m.rewind r s.broker).handled := by
  unfold Member.rewind
  split
  · rename_i hr
    obtain ⟨k, hk, ho⟩ := hs.cursor_of_mem hm hr
    refine replaces_release hs hm hr (by decide) ?_
    change (⟨max r.offset (s.broker.cursor (m.cursorId r)).committed,
      (s.broker.cursor (m.cursorId r)).committed, false⟩ : Cursor) = _
    rw [hk, ho]
    simp [Cursor.after, afterDeed]
  · exact replaces_same (x := m.membership s.broker) hs hm rfl rfl rfl rfl

theorem cursor_giveBack (group : String) (b : Broker) (held : List (String × Int))
    (id : CursorId) :
    (held.foldl (Membership.giveBack group) b).cursor id =
      if id.group = group ∧ (id.topic, id.partition) ∈ held then
        { b.cursor id with next := (b.cursor id).committed, inFlight := false }
      else b.cursor id := by
  induction held generalizing b with
  | nil => simp
  | cons h rest ih =>
      rw [List.foldl_cons, ih]
      simp only [Membership.giveBack, Broker.cursor_setCursor]
      by_cases hid : id = ⟨group, h.1, h.2⟩
      · subst hid
        simp
      · have : ¬ (id.group = group ∧ (id.topic, id.partition) = h) := by
          rintro ⟨rfl, rfl⟩
          exact hid rfl
        simp only [if_neg hid, List.mem_cons]
        refine if_congr ?_ rfl rfl
        tauto

theorem topics_giveBack (group : String) (b : Broker) (held : List (String × Int)) :
    (held.foldl (Membership.giveBack group) b).topics = b.topics := by
  induction held generalizing b with
  | nil => rfl
  | cons h rest ih => rw [List.foldl_cons, ih]; rfl

theorem replaces_close {s : Session} (hs : s.Sound) {i : Nat} {m : Member}
    (hm : s.members[i]? = some m) :
    Replaces s.broker (m.close s.broker).broker m (m.close s.broker).member
      (m.close s.broker).handled := by
  refine replaces_letGo hs hm (by decide) (hs.nodup hm) (fun _ h => h)
    (topics_giveBack m.consumer.group s.broker m.consumer.held) (fun id => ?_) rfl ?_ rfl
  · change (m.consumer.held.foldl (Membership.giveBack m.consumer.group) s.broker).cursor id = _
    rw [cursor_giveBack, hs.listed hm]
    have hiff : (id.group = m.consumer.group ∧
        (id.topic, id.partition) ∈ m.records.map fun r => (r.topic, r.partition)) ↔
        ∃ r ∈ m.records, m.cursorId r = id := by
      obtain ⟨g, t, p⟩ := id
      simp only [List.mem_map, Prod.mk.injEq, Member.cursorId, CursorId.mk.injEq]
      constructor
      · rintro ⟨rfl, r, hr, rfl, rfl⟩
        exact ⟨r, hr, rfl, rfl, rfl⟩
      · rintro ⟨r, hr, rfl, rfl, rfl⟩
        exact ⟨rfl, r, hr, rfl, rfl⟩
    rw [if_congr hiff rfl rfl]
    split
    · rename_i h
      obtain ⟨r, hr, rfl⟩ := h
      obtain ⟨k, hk, -⟩ := hs.cursor_of_mem hm hr
      rw [hk]
      simp [Cursor.after, afterDeed]
    · rfl
  · exact (List.filter_eq_nil_iff.mpr (by simp)).symm

/-! ### Runs -/

/-- Looking for a record, member `i` takes one that its group sees under `id`. -/
def Takes (s : Session) (i : Nat) (id : CursorId) : Prop :=
  ∃ m r x, s.members[i]? = some m ∧ (m.membership s.broker).take = (some r, x) ∧
    m.cursorId r = id

theorem act_eq {s : Session} {i : Nat} {m : Member} (f : Member → Broker → Turn)
    (hm : s.members[i]? = some m) :
    s.act i f = ⟨(f m s.broker).broker, s.members.set i (f m s.broker).member,
      s.history ++ (f m s.broker).handled⟩ := by
  simp only [Session.act, hm]

/-- **What a member's operation does**: it replaces the member, keeping the cursors and the
history together.  Only looking for a record adds to what is held, and closing leaves nothing. -/
theorem Sound.perform_member {s : Session} (hs : s.Sound) {op : Operation} {i : Nat}
    (hop : op.member? = some i) {m : Member} (hm : s.members[i]? = some m) :
    ∃ b n l, s.perform op = ⟨b, s.members.set i n, s.history ++ l⟩ ∧
      Replaces s.broker b m n l ∧
      (n.records ⊆ m.records ∨ op = .poll i ∧ ∀ r ∈ n.records, r ∈ m.records ∨
        s.Takes i (m.cursorId r)) ∧
      (op = .close i → n.records = []) := by
  have act := fun f => act_eq f hm
  cases op with
  | publish _ _ | create _ | refuse _ | join _ _ => cases hop
  | poll j =>
      obtain rfl := Option.some.inj hop
      refine ⟨_, _, _, act Member.poll, replaces_poll hs hm, .inr ⟨rfl, fun r hr => ?_⟩, by simp⟩
      unfold Member.poll at hr
      split at hr
      · rename_i r' x h
        rcases List.mem_append.mp hr with hr | hr
        · exact .inl hr
        · obtain rfl := List.mem_singleton.mp hr
          exact .inr ⟨m, r, x, hm, h, rfl⟩
      · exact .inl hr
  | commit j r =>
      obtain rfl := Option.some.inj hop
      refine ⟨_, _, _, act (Member.commit r), replaces_commit hs hm r, .inl ?_, by simp⟩
      unfold Member.commit
      split
      · exact List.filter_subset_self ..
      · exact List.Subset.refl _
  | rewind j r =>
      obtain rfl := Option.some.inj hop
      refine ⟨_, _, _, act (Member.rewind r), replaces_rewind hs hm r, .inl ?_, by simp⟩
      unfold Member.rewind
      split
      · exact List.filter_subset_self ..
      · exact List.Subset.refl _
  | pause j =>
      obtain rfl := Option.some.inj hop
      exact ⟨_, _, _, act Member.pause, replaces_same hs hm rfl rfl rfl rfl,
        .inl (List.Subset.refl _), by simp⟩
  | resume j =>
      obtain rfl := Option.some.inj hop
      exact ⟨_, _, _, act Member.resume, replaces_same hs hm rfl rfl rfl rfl,
        .inl (List.Subset.refl _), by simp⟩
  | keepAlive j =>
      obtain rfl := Option.some.inj hop
      exact ⟨_, _, _, act Member.keepAlive, replaces_same hs hm rfl rfl rfl rfl,
        .inl (List.Subset.refl _), by simp⟩
  | close j =>
      obtain rfl := Option.some.inj hop
      exact ⟨_, _, _, act Member.close, replaces_close hs hm, .inl (List.nil_subset _),
        fun _ => rfl⟩

/-- An operation of a member that is not there changes nothing. -/
theorem perform_absent {s : Session} {op : Operation} {i : Nat} (hop : op.member? = some i)
    (hm : s.members[i]? = none) : s.perform op = s := by
  cases op <;> cases hop <;> simp only [Session.perform, Session.act, hm]

/-- An outside operation moves no cursor, and gives no member a record. -/
theorem perform_outside (s : Session) {op : Operation} (hop : op.member? = none) :
    (s.perform op).broker.cursors = s.broker.cursors ∧
      ∀ {i id r}, (s.perform op).Holds i id r → s.Holds i id r := by
  cases op with
  | poll _ | commit _ _ | rewind _ _ | pause _ | resume _ | keepAlive _ | close _ => cases hop
  | publish now r => exact ⟨Broker.cursors_publish .., id⟩
  | create requests => exact ⟨Broker.cursors_createTopics .., id⟩
  | refuse n => exact ⟨rfl, id⟩
  | join group topics =>
      simp only [Session.perform, Consumer.join]
      split
      · rename_i c hc
        exact ⟨rfl, (holds_concat rfl).mp⟩
      · exact ⟨rfl, id⟩

/-- A turn changes neither the topics nor the cursors of any group but the member's. -/
structure Within (m : Member) (b : Broker) (t : Turn) : Prop where
  topics : t.broker.topics = b.topics
  cursor : ∀ id, id.group ≠ m.consumer.group → t.broker.cursor id = b.cursor id

theorem within_poll (m : Member) (b : Broker) : Within m b (m.poll b) := by
  unfold Member.poll
  split
  · rename_i r x h
    obtain ⟨-, -, -, -, -, -, hb, -⟩ := Membership.take_eq_some h
    refine ⟨(congrArg Broker.topics hb).trans rfl, fun id hid => ?_⟩
    change x.broker.cursor id = _
    rw [hb, Broker.cursor_setCursor, if_neg fun e => hid (congrArg CursorId.group e)]
    rfl
  · rename_i x h
    obtain ⟨hb, -⟩ := Membership.take_eq_none h
    exact ⟨congrArg Broker.topics hb, fun id _ => congrArg (Broker.cursor · id) hb⟩

/-- Letting go of a record of the member's group. -/
theorem within_release {m : Member} (b : Broker) (r : Record) (c : Cursor)
    (records : List Record) (l : List Handling) :
    Within m b
      (Member.turn ((m.membership b).release r.topic r.partition c) records l) where
  topics := rfl
  cursor id hid := by
    change ((b.setCursor (m.cursorId r) c).announce).cursor id = _
    rw [Broker.cursor_announce, Broker.cursor_setCursor,
      if_neg fun e => hid (congrArg CursorId.group e)]

theorem within_close (m : Member) (b : Broker) : Within m b (m.close b) where
  topics := topics_giveBack m.consumer.group b m.consumer.held
  cursor id hid := by
    change (m.consumer.held.foldl (Membership.giveBack m.consumer.group) b).cursor id = _
    rw [cursor_giveBack, if_neg fun h => hid h.1]

/-- An operation of a member that is there is a turn of it. -/
theorem perform_turn {s : Session} {op : Operation} {i : Nat} (hop : op.member? = some i)
    {m : Member} (hm : s.members[i]? = some m) :
    ∃ t, Within m s.broker t ∧
      s.perform op = ⟨t.broker, s.members.set i t.member, s.history ++ t.handled⟩ := by
  cases op <;> cases hop
  case poll => exact ⟨_, within_poll m s.broker, act_eq Member.poll hm⟩
  case commit r =>
      refine ⟨_, ?_, act_eq (Member.commit r) hm⟩
      unfold Member.commit
      split
      · exact within_release ..
      · exact ⟨rfl, fun _ _ => rfl⟩
  case rewind r =>
      refine ⟨_, ?_, act_eq (Member.rewind r) hm⟩
      unfold Member.rewind
      split
      · exact within_release ..
      · exact ⟨rfl, fun _ _ => rfl⟩
  case pause => exact ⟨_, ⟨rfl, fun _ _ => rfl⟩, act_eq Member.pause hm⟩
  case resume => exact ⟨_, ⟨rfl, fun _ _ => rfl⟩, act_eq Member.resume hm⟩
  case keepAlive => exact ⟨_, ⟨rfl, fun _ _ => rfl⟩, act_eq Member.keepAlive hm⟩
  case close => exact ⟨_, within_close m s.broker, act_eq Member.close hm⟩

/-- An operation of a member of another group leaves a group's cursor alone. -/
theorem cursor_perform {s : Session} {op : Operation} {id : CursorId}
    (h : ∀ i m, op.member? = some i → s.members[i]? = some m → m.consumer.group ≠ id.group) :
    (s.perform op).broker.cursor id = s.broker.cursor id := by
  cases hop : op.member? with
  | none => exact Broker.cursor_congr (perform_outside s hop).1 id
  | some i =>
      cases hm : s.members[i]? with
      | none => rw [perform_absent hop hm]
      | some m =>
          obtain ⟨t, ht, hp⟩ := perform_turn hop hm
          rw [hp]
          exact ht.cursor id (h i m hop hm).symm

/-- **Every operation keeps a session sound.** -/
theorem Sound.perform {s : Session} (hs : s.Sound) (op : Operation) : (s.perform op).Sound := by
  cases hop : op.member? with
  | some i =>
      cases hm : s.members[i]? with
      | none => exact (perform_absent hop hm).symm ▸ hs
      | some m =>
          obtain ⟨b, n, l, h, hrep, -⟩ := hs.perform_member hop hm
          rw [h]
          exact hs.replace hm hrep
  | none =>
      cases op with
      | poll _ | commit _ _ | rewind _ _ | pause _ | resume _ | keepAlive _ | close _ => cases hop
      | publish now r =>
          exact hs.grow (hs.regular.publish now r) (Broker.cursors_publish ..)
            (Broker.extends_publish hs.regular now r)
      | create requests =>
          exact hs.grow (hs.regular.createTopics requests) (Broker.cursors_createTopics ..)
            (.of_log_eq (Broker.log_createTopics s.broker requests))
      | refuse n => exact hs.grow ⟨hs.regular.1, hs.regular.2⟩ rfl (Broker.Extends.refl _)
      | join group topics =>
          simp only [Session.perform, Consumer.join]
          split
          · rename_i c hc
            split at hc
            · cases hc
            · cases hc
              exact hs.join rfl rfl
          · exact hs

theorem Sound.performAll {s : Session} (hs : s.Sound) (ops : List Operation) :
    (s.performAll ops).Sound := by
  induction ops generalizing s with
  | nil => exact hs
  | cons op ops ih => exact ih (hs.perform op)

theorem sound_run (ops : List Operation) : (run ops).Sound := sound_empty.performAll ops

/-- What is held after an operation was held before it, and not by a member that closed, or it was
taken by it. -/
theorem Sound.holds_perform {s : Session} (hs : s.Sound) {op : Operation} {i : Nat}
    {id : CursorId} {r : Record} (h : (s.perform op).Holds i id r) :
    s.Holds i id r ∧ op ≠ .close i ∨ op = .poll i ∧ s.Takes i id := by
  cases hop : op.member? with
  | none => exact .inl ⟨(perform_outside s hop).2 h, by rintro rfl; cases hop⟩
  | some j =>
      cases hm : s.members[j]? with
      | none =>
          rw [perform_absent hop hm] at h
          refine .inl ⟨h, ?_⟩
          rintro rfl
          obtain rfl := Option.some.inj hop
          obtain ⟨m, hm', -⟩ := h
          rw [hm] at hm'
          cases hm'
      | some m =>
          obtain ⟨b, n, l, hp, hrep, hsub, hclose⟩ := hs.perform_member hop hm
          rw [hp] at h
          rcases (holds_replace hm hrep).mp h with ⟨rfl, hr, hid⟩ | ⟨hj, h⟩
          · have hne : op ≠ .close i := fun e => by rw [hclose e] at hr; cases hr
            rcases hsub with hsub | ⟨rfl, hpoll⟩
            · exact .inl ⟨⟨m, hm, hsub hr, hid⟩, hne⟩
            · rcases hpoll r hr with hr | ht
              · exact .inl ⟨⟨m, hm, hr, hid⟩, hne⟩
              · exact .inr ⟨rfl, hid ▸ ht⟩
          · refine .inl ⟨h, ?_⟩
            rintro rfl
            exact hj (Option.some.inj hop)

theorem run_concat (ops : List Operation) (op : Operation) :
    run (ops ++ [op]) = (run ops).perform op := by
  simp [run, performAll]

/-- What a member holds it took, and it has not closed since. -/
theorem poll_of_holds {ops : List Operation} {i : Nat} {id : CursorId} {r : Record}
    (h : (run ops).Holds i id r) :
    ∃ earlier later, ops = earlier ++ .poll i :: later ∧ (run earlier).Takes i id ∧
      .close i ∉ later := by
  induction ops using List.reverseRecOn with
  | nil => exact absurd h (by rintro ⟨m, hm, -⟩; simp [run, performAll] at hm)
  | append_singleton ops op ih =>
      rw [run_concat] at h
      rcases (sound_run ops).holds_perform h with ⟨h, hne⟩ | ⟨rfl, ht⟩
      · obtain ⟨earlier, later, rfl, ht, hc⟩ := ih h
        refine ⟨earlier, later ++ [op], by simp, ht, ?_⟩
        simp only [List.mem_append, List.mem_singleton, not_or]
        exact ⟨hc, hne.symm⟩
      · exact ⟨ops, [], rfl, ht, by simp⟩

end Session

end Redelivery
