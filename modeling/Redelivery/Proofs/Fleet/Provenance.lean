import Redelivery.Proofs.Fleet.Punctuality

/-!
# Fleet — where notes come from

A fleet notes the copies that its workers publish and the records that they settle.  What there was
to see of a worker when it published or settled something cannot be read off the note itself: it is
looked up in the run, in the state before the worker's step (`Fleet.Acted`).

**Provenance.**  Every copy is what some worker was about to publish of the record that it held
(`published_run`), and every settlement is what was to be seen of a worker that was about to
acknowledge the record that it held (`settles_run`).  The records are in the logs from then on.
-/

namespace Redelivery

theorem Broker.topic_of_recordAt? {b : Broker} {x : Place} {r : Record}
    (h : b.recordAt? x = some r) : r.topic = x.topic := by
  obtain ⟨e, -, rfl⟩ := Option.map_eq_some_iff.mp h
  rfl

namespace Fleet

/-- A worker was about to publish the copy of its record, and did so in a step. -/
inductive Published (c : Container) (moves : List Move) (a : Copy) : Prop where
  | intro {i : Nat} {s : Surroundings} {d : Desk} {r : Record} {copy : Outgoing} {more : Nat}
      {now : Instant} (hacted : Acted c moves i s d)
      (hp : d.worker.phase = .publishing r copy more)
      (hsource : (run c moves).broker.recordAt? a.source = some r)
      (ht : a.target.topic = copy.topic)
      (htarget : (run c moves).broker.recordAt? a.target = some (Broker.recordOf a.target.topic
        a.target.partition a.target.offset (Broker.entryOf now copy))) : Published c moves a

/-- A worker was about to acknowledge its record, and settled it in a step. -/
inductive Settles (c : Container) (moves : List Move) : Settlement → Prop where
  | intro {i : Nat} {s : Surroundings} {d : Desk} {r : Record} (hacted : Acted c moves i s d)
      (hp : d.worker.phase = .committing r) (hcopies : d.dispatch.copies = [])
      (hr : (run c moves).broker.recordAt? r.place = some r) :
      Settles c moves ⟨d.worker, r, d.dispatch⟩

variable {c : Container} {f : Fleet} {moves : List Move} {i : Nat} {s : Surroundings} {d : Desk}

/-- Logs only grow in a run. -/
theorem extends_concat (c : Container) (moves : List Move) (m : Move) :
    (run c moves).broker.Extends (run c (moves ++ [m])).broker := by
  rw [run_concat]
  exact (sound_run c moves).extends_move m

/-- A worker deals with its record at the post of the record's topic. -/
theorem Sound.at_post (hs : f.Sound c) (hc : c.Built) (hd : f.desks[i]? = some d) {r : Record}
    (hr : d.worker.record? = some r) {p : Post} (hp : p ∈ c.posts) (ht : p.topic = r.topic) :
    d.worker.At c r p := by
  obtain ⟨q, hat⟩ := hs.at hd hr
  obtain rfl := hc.eq_of_topic hp hat.mem (ht.trans hat.topic.symm)
  exact hat

/-- What holds of every note that a worker's step adds, and goes on to hold. -/
theorem notes_induction {α : Type} (notes : Fleet → List α) {P : List Move → α → Prop}
    (empty : notes {} = [])
    (other : ∀ f m, (∀ i s, m ≠ .work i s) → notes (f.move c m) = notes f)
    (work : ∀ moves i d s, (run c moves).desks[i]? = some d → ∀ a ∈ notes ((run c moves).work i s),
      a ∈ notes (run c moves) ∨ P (moves ++ [.work i s]) a)
    (concat : ∀ moves m a, P moves a → P (moves ++ [m]) a)
    (moves : List Move) : ∀ a ∈ notes (run c moves), P moves a := by
  induction moves using List.reverseRecOn with
  | nil =>
      intro a ha
      rw [show notes (run c []) = [] from empty] at ha
      cases ha
  | append_singleton moves m ih =>
      intro a ha
      rw [run_concat] at ha
      cases m with
      | publish _ _ | create _ | refuse _ | start =>
          rw [other _ _ (by simp)] at ha
          exact concat _ _ a (ih a ha)
      | work i s =>
          change a ∈ notes ((run c moves).work i s) at ha
          cases hd : (run c moves).desks[i]? with
          | none =>
              rw [work_of_none hd] at ha
              exact concat _ _ a (ih a ha)
          | some d =>
              rcases work moves i d s hd a ha with ha | h
              · exact concat _ _ a (ih a ha)
              · exact h

/-! ### Copies -/

theorem Published.concat {a : Copy} (h : Published c moves a) (m : Move) :
    Published c (moves ++ [m]) a := by
  obtain ⟨hacted, hp, hsource, ht, htarget⟩ := h
  have hext := extends_concat c moves m
  exact .intro (hacted.concat m) hp (hext.recordAt? hsource) ht (hext.recordAt? htarget)

theorem published_work {a : Copy} (hd : (run c moves).desks[i]? = some d)
    (ha : a ∈ d.copied ((run c moves).broker.gained
      (d.worker.step s (run c moves).broker).broker)) :
    Published c (moves ++ [.work i s]) a := by
  have hs := sound_run c moves
  obtain ⟨history, hsession⟩ := hs.session
  have hb : (run c moves).broker.Regular := hsession.regular
  cases hs.effect hd s with
  | none hgain _ _ _ | acknowledge _ hgain _ _ =>
      rw [hgain, copied_nil] at ha
      cases ha
  | @copy r copy more y hp hgain _ _ _ =>
      have hr : d.worker.record? = some r := congrArg Phase.record? hp
      have hbroker := ((d.worker.does_step s (run c moves).broker).of_publishing hp).1
      simp only [Desk.copied, hr, hgain, List.map_singleton, List.mem_singleton] at ha
      subst ha
      have hrun : (run c (moves ++ [.work i s])).broker =
          ((run c moves).broker.publish s.clock.now copy).2 := by
        rw [run_concat]
        exact (broker_work hd s).trans hbroker
      have htopic : y.topic = copy.topic := by
        rcases Desk.publishing_cases hb hp s with ⟨hnone, -⟩ | ⟨z, hz, ht, -⟩
        · rw [hgain] at hnone
          cases hnone
        · rw [hgain] at hz
          cases hz
          exact ht
      have hgained : y ∈ (run c moves).broker.gained
          ((run c moves).broker.publish s.clock.now copy).2 := by
        rw [← hbroker, hgain]
        exact List.mem_singleton_self y
      have hrecord := Broker.recordAt?_of_gained hb hgained
      rw [← hrun] at hrecord
      exact .intro (lastActed_work hd s).acted hp
        ((extends_concat c moves _).recordAt? (hs.held hd hr).1.recordAt?) htopic hrecord

/-- **Every copy** was about to be published. -/
theorem published_run (c : Container) (moves : List Move) :
    ∀ a ∈ (run c moves).copies, Published c moves a := by
  refine notes_induction Fleet.copies rfl ?other ?work (fun _ m _ h => h.concat m) moves
  case other =>
    intro f m hm
    cases m with
    | publish _ _ | create _ | refuse _ | start => rfl
    | work i s => exact absurd rfl (hm i s)
  case work =>
    intro moves i d s hd a ha
    rw [work_eq hd] at ha
    exact (List.mem_append.mp ha).imp_right (published_work hd)

/-! ### Settlements -/

theorem Settles.concat {k : Settlement} (h : Settles c moves k) (m : Move) :
    Settles c (moves ++ [m]) k := by
  obtain ⟨hacted, hp, hcopies, hr⟩ := h
  exact .intro (hacted.concat m) hp hcopies ((extends_concat c moves m).recordAt? hr)

theorem settles_work {k : Settlement} (hd : (run c moves).desks[i]? = some d)
    (hk : k ∈ d.settled) : Settles c (moves ++ [.work i s]) k := by
  by_cases hp : ∃ r, d.worker.phase = .committing r
  · obtain ⟨r, hp⟩ := hp
    obtain ⟨hcopies, rfl⟩ := (mem_settled hp).mp hk
    have hr : d.worker.record? = some r := congrArg Phase.record? hp
    exact .intro (lastActed_work hd s).acted hp hcopies
      ((extends_concat c moves _).recordAt? ((sound_run c moves).held hd hr).1.recordAt?)
  · rw [settled_of_not_committing fun r e => hp ⟨r, e⟩] at hk
    cases hk

/-- **Every settlement** was about to be made. -/
theorem settles_run (c : Container) (moves : List Move) :
    ∀ k ∈ (run c moves).settled, Settles c moves k := by
  refine notes_induction Fleet.settled rfl ?other ?work (fun _ m _ h => h.concat m) moves
  case other =>
    intro f m hm
    cases m with
    | publish _ _ | create _ | refuse _ | start => rfl
    | work i s => exact absurd rfl (hm i s)
  case work =>
    intro moves i d s hd k hk
    rw [work_eq hd] at hk
    exact (List.mem_append.mp hk).imp_right (settles_work hd)

end Fleet

end Redelivery
