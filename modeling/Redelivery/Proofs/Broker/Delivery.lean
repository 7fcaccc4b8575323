import Mathlib.Data.List.Chain
import Redelivery.Proofs.Broker.Cursors

/-!
# Broker — what a group is handed

What has happened to the records of a partition in a group follows one pattern (`Follows`): the
first record is taken first; a record that was taken is acknowledged or given back before any
other is taken; one that was given back is taken next, and after one that was acknowledged the
next one is.

**Delivery.**  In the session after any operations, in any order and of any members, the groups are
handed their records so (`Delivers`, `run_delivers`).
-/

namespace Redelivery

/-- What may happen to the records of a partition in a group directly after `h`. -/
inductive Follows (h h' : Handling) : Prop where
  /-- A record that was taken is acknowledged or given back. -/
  | leaves (hd : h.deed = .taken) (hd' : h'.deed ≠ .taken) (hr : h'.record = h.record)
  /-- A record that was given back is taken again. -/
  | again (hd : h.deed = .givenBack) (hd' : h'.deed = .taken) (hr : h'.record = h.record)
  /-- After a record that was acknowledged, the next one is taken. -/
  | next (hd : h.deed = .acknowledged) (hd' : h'.deed = .taken)
      (ho : h'.record.offset = h.record.offset + 1)

/-- The offsets of the records that were acknowledged. -/
def acknowledgedOffsets (l : List Handling) : List Int :=
  (l.filter (·.deed = .acknowledged)).map (·.record.offset)

namespace Course

theorem acknowledgedOffsets_eq {k : Nat} {f : Bool} {l : List Handling} (c : Course k f l) :
    acknowledgedOffsets l = (List.range k).map Int.ofNat := by
  induction c with
  | start => rfl
  | take _ hd _ ih =>
      rw [acknowledgedOffsets, List.filter_append, List.map_append, ← acknowledgedOffsets, ih]
      simp [hd]
  | acknowledge _ hd ho ih =>
      rw [acknowledgedOffsets, List.filter_append, List.map_append, ← acknowledgedOffsets, ih]
      simp [hd, ho, List.range_succ]
  | giveBack _ hd _ ih =>
      rw [acknowledgedOffsets, List.filter_append, List.map_append, ← acknowledgedOffsets, ih]
      simp [hd]

/-- Nothing has happened yet, or a record was taken first. -/
theorem head_taken {k : Nat} {f : Bool} {l : List Handling} (c : Course k f l) :
    (l = [] ∧ k = 0 ∧ f = false) ∨ ∃ h l', l = h :: l' ∧ h.deed = .taken ∧ h.record.offset = 0 := by
  induction c with
  | start => exact .inl ⟨rfl, rfl, rfl⟩
  | take _ hd ho ih =>
      rcases ih with ⟨rfl, rfl, -⟩ | ⟨h, l', rfl, h₁, h₂⟩
      · exact .inr ⟨_, [], rfl, hd, ho⟩
      · exact .inr ⟨h, _, rfl, h₁, h₂⟩
  | acknowledge _ _ _ ih | giveBack _ _ _ ih =>
      rcases ih with ⟨-, -, h⟩ | ⟨h, l', rfl, h₁, h₂⟩
      · cases h
      · exact .inr ⟨h, _, rfl, h₁, h₂⟩

/-- The last thing that happened says where the group is. -/
theorem getLast_deed {k : Nat} {f : Bool} {l : List Handling} (c : Course k f l) :
    ∀ h ∈ l.getLast?, (f = true ∧ h.deed = .taken ∧ h.record.offset = k) ∨
      (f = false ∧ h.deed = .givenBack ∧ h.record.offset = k) ∨
      (f = false ∧ h.deed = .acknowledged ∧ h.record.offset + 1 = k) := by
  cases c with
  | start => simp
  | take _ hd ho => simp [hd, ho]
  | acknowledge _ hd ho => simp [hd, ho]
  | giveBack _ hd ho => simp [hd, ho]

theorem isChain_concat {l : List Handling} {h' : Handling} (hl : l.IsChain Follows)
    (h : ∀ h ∈ l.getLast?, Follows h h') : (l ++ [h']).IsChain Follows := by
  refine List.isChain_append.mpr ⟨hl, .singleton _, fun x hx y hy => ?_⟩
  obtain rfl : h' = y := by simpa using hy
  exact h x hx

/-- **The pattern**: what happens to the records of a broker in a group follows on what happened
before. -/
theorem isChain {b : Broker} {id : CursorId} {k : Nat} {f : Bool} {l : List Handling}
    (c : Course k f l) (hl : ∀ h ∈ l, b.Keeps h.record ∧ h.cursorId = id) :
    l.IsChain Follows := by
  -- the offset tells the records of a partition apart
  have same : ∀ {h h'}, h ∈ l → h' ∈ l → h'.record.offset = h.record.offset →
      h'.record = h.record := by
    intro h h' hh hh' ho
    obtain ⟨hk, hid⟩ := hl h hh
    obtain ⟨hk', hid'⟩ := hl h' hh'
    have e := hid'.trans hid.symm
    simp only [Handling.cursorId, CursorId.mk.injEq] at e
    exact hk'.eq hk e.2.1 e.2.2 ho
  induction c with
  | start => exact .nil
  | @take k l h' c hd ho ih =>
      have hsub : l ⊆ l ++ [h'] := List.subset_append_left ..
      refine isChain_concat (ih (fun h hh => hl h (hsub hh))
        (fun hh hh' => same (hsub hh) (hsub hh'))) fun h hh => ?_
      have hm := List.mem_of_getLast? hh
      rcases c.getLast_deed h hh with ⟨hf, -, -⟩ | ⟨-, hg, hgo⟩ | ⟨-, ha, hao⟩
      · cases hf
      · exact .again hg hd (same (hsub hm) (by simp) (ho.trans hgo.symm))
      · exact .next ha hd (ho.trans hao.symm)
  | @acknowledge k l h' c hd ho ih | @giveBack k l h' c hd ho ih =>
      have hsub : l ⊆ l ++ [h'] := List.subset_append_left ..
      refine isChain_concat (ih (fun h hh => hl h (hsub hh))
        (fun hh hh' => same (hsub hh) (hsub hh'))) fun h hh => ?_
      have hm := List.mem_of_getLast? hh
      rcases c.getLast_deed h hh with ⟨-, ht, hto⟩ | ⟨hf, -, -⟩ | ⟨hf, -, -⟩
      · exact .leaves ht (by rw [hd]; decide) (same (hsub hm) (by simp) (ho.trans hto.symm))
      · cases hf
      · cases hf

end Course

namespace Session

/-- Member `i` took a record of the group, and has not closed since. -/
def Lingers (ops : List Operation) (group : String) (i : Nat) : Prop :=
  ∃ earlier later id, ops = earlier ++ .poll i :: later ∧ (run earlier).Takes i id ∧
    id.group = group ∧ .close i ∉ later

/-- What the groups may rely on after the operations. -/
structure Delivers (ops : List Operation) : Prop where
  /-- A cursor is one further than what is acknowledged if it is in flight, and within its log. -/
  next_eq : ∀ id, ((run ops).broker.cursor id).next =
    ((run ops).broker.cursor id).committed + if ((run ops).broker.cursor id).inFlight then 1 else 0
  next_le : ∀ id, ((run ops).broker.cursor id).next ≤
    ((run ops).broker.log id.topic id.partition.toNat).length
  /-- It is in flight exactly when one single member holds one record. -/
  inFlight_iff : ∀ id, ((run ops).broker.cursor id).inFlight = true ↔
    ∃! x : Nat × Record, (run ops).Holds x.1 id x.2
  nodup : ∀ {i : Nat} {m : Member}, (run ops).members[i]? = some m → m.records.Nodup
  /-- The record that is held is the first one that is not acknowledged. -/
  held : ∀ {i id r}, (run ops).Holds i id r →
    (run ops).broker.Keeps r ∧ r.offset = ((run ops).broker.cursor id).committed
  /-- The records of a partition are handed out in order, and again when they were given back. -/
  first : ∀ id, ∀ h ∈ ((run ops).historyOf id).head?, h.deed = .taken ∧ h.record.offset = 0
  follows : ∀ id, ((run ops).historyOf id).IsChain Follows
  /-- Each offset up to the committed one is acknowledged once, in order. -/
  acknowledged : ∀ id, acknowledgedOffsets ((run ops).historyOf id) =
    (List.range ((run ops).broker.cursor id).committed.toNat).map Int.ofNat
  /-- Members of other groups do not move a cursor. -/
  apart : ∀ op id, (∀ i m, op.member? = some i → (run ops).members[i]? = some m →
      m.consumer.group ≠ id.group) →
    ((run ops).perform op).broker.cursor id = (run ops).broker.cursor id
  /-- If all members that took records of a group have closed since, nothing of it is in flight,
  and it goes on where it has acknowledged to. -/
  resumes : ∀ group, (∀ i, ¬ Lingers ops group i) → ∀ id, id.group = group →
    ((run ops).broker.cursor id).inFlight = false ∧
    ((run ops).broker.cursor id).next = ((run ops).broker.cursor id).committed

theorem Sound.next_eq {s : Session} (hs : s.Sound) (id : CursorId) :
    (s.broker.cursor id).next =
      (s.broker.cursor id).committed + if (s.broker.cursor id).inFlight then 1 else 0 := by
  obtain ⟨k, f, hc, -⟩ := hs.cursor id
  rw [hc]
  rfl

/-- A record in flight has one holder, and nothing else of the partition is held. -/
theorem Sound.inFlight_iff {s : Session} (hs : s.Sound) (id : CursorId) :
    (s.broker.cursor id).inFlight = true ↔ ∃! x : Nat × Record, s.Holds x.1 id x.2 := by
  constructor
  · intro hf
    obtain ⟨k, f, hc, -, -, hh⟩ := hs.cursor id
    obtain ⟨i, r, h⟩ := hh (by rw [hc] at hf; exact hf)
    exact ⟨(i, r), h, fun x hx => Prod.ext (hs.alone hx h) (hs.eq_of_holds hx h)⟩
  · rintro ⟨x, hx, -⟩
    exact (hs.held hx).2.1

theorem Sound.follows {s : Session} (hs : s.Sound) (id : CursorId) :
    (s.historyOf id).IsChain Follows := by
  obtain ⟨k, f, -, -, hcourse, -⟩ := hs.cursor id
  have hl : ∀ h ∈ s.historyOf id, s.broker.Keeps h.record ∧ h.cursorId = id := by
    intro h hh
    obtain ⟨hmem, hid⟩ := List.mem_filter.mp hh
    exact ⟨hs.kept h hmem, of_decide_eq_true hid⟩
  exact hcourse.isChain hl

/-- **What a group may rely on**, whatever the members of all groups do and in whatever order. -/
theorem run_delivers (ops : List Operation) : Delivers ops where
  next_eq := (sound_run ops).next_eq
  next_le id := by
    obtain ⟨k, f, -, hle, -⟩ := (sound_run ops).cursor id
    exact hle
  inFlight_iff := (sound_run ops).inFlight_iff
  nodup := (sound_run ops).nodup
  held h := ⟨((sound_run ops).held h).1, ((sound_run ops).held h).2.2⟩
  first id h hh := by
    obtain ⟨k, f, -, -, hcourse, -⟩ := (sound_run ops).cursor id
    rcases hcourse.head_taken with ⟨hl, -⟩ | ⟨h', l, hl, hd, ho⟩
    · simp [hl] at hh
    · obtain rfl : h' = h := by simpa [hl] using hh
      exact ⟨hd, ho⟩
  follows := (sound_run ops).follows
  acknowledged id := by
    obtain ⟨k, f, hc, -, hcourse, -⟩ := (sound_run ops).cursor id
    rw [hcourse.acknowledgedOffsets_eq, hc]
    rfl
  apart op id := cursor_perform
  resumes group hno id hid := by
    have hf : ((run ops).broker.cursor id).inFlight = false := by
      by_contra h
      obtain ⟨⟨i, r⟩, hx, -⟩ := ((sound_run ops).inFlight_iff id).mp (by simpa using h)
      obtain ⟨earlier, later, hops, ht, hc⟩ := poll_of_holds hx
      exact hno i ⟨earlier, later, id, hops, ht, hid, hc⟩
    refine ⟨hf, ?_⟩
    rw [(sound_run ops).next_eq, hf]
    simp

end Session

end Redelivery
