import Redelivery.Proofs.Fleet.Ledger
import Redelivery.Proofs.Worker.Notes

/-!
# Fleet — the journal

A journal follows a fleet and keeps a `Note` for each of its workers.  When a worker publishes a
copy, the journal has a `Hop` for it, which is the copy with the worker's note of that moment.  It
says nothing of its own about the fleet: this one runs as it does without a journal
(`Journal.fleet_run`), and the hops are its copies (`Journal.copies_run`).

**Hops** (`faithful_run`).  The two records of every hop differ as its note says: the copy has the
key and the payload of its source, and in its headers the state of one more attempt (`Hop.Made`).
-/

namespace Redelivery

/-- A copy, and what was noted of the worker that published it. -/
structure Hop where
  copy : Copy
  note : Note
  deriving Repr, DecidableEq

/-- A fleet, a note for each of its workers, and the copies with their notes, in order. -/
structure Journal where
  fleet : Fleet := {}
  notes : Nat → Note := fun _ => {}
  hops : List Hop := []

namespace Journal

/-- The journal after a step of a worker, if there is that worker. -/
def work (j : Journal) (i : Nat) (s : Surroundings) : Journal :=
  match j.fleet.desks[i]? with
  | none => j
  | some d =>
      let fleet := j.fleet.work i s
      { fleet
        notes := fun k => if k = i then (j.notes i).after d.worker s else j.notes k
        hops := j.hops ++
          (d.copied (j.fleet.broker.gained fleet.broker)).map (Hop.mk · (j.notes i)) }

/-- The journal of the fleet of a container after a move. -/
def move (c : Container) (j : Journal) : Move → Journal
  | .work i s => j.work i s
  | m => { j with fleet := j.fleet.move c m }

/-- The journal of the fleet of a container after moves that follow each other. -/
def run (c : Container) (moves : List Move) : Journal := moves.foldl (move c) {}

theorem run_concat (c : Container) (moves : List Move) (m : Move) :
    run c (moves ++ [m]) = (run c moves).move c m := by
  simp [run]

variable {c : Container} {j : Journal} {i : Nat} {d : Desk}

theorem work_eq (hd : j.fleet.desks[i]? = some d) (s : Surroundings) :
    j.work i s =
      { fleet := j.fleet.work i s
        notes := fun k => if k = i then (j.notes i).after d.worker s else j.notes k
        hops := j.hops ++
          (d.copied (j.fleet.broker.gained (j.fleet.work i s).broker)).map
            (Hop.mk · (j.notes i)) } := by
  simp only [work, hd]

theorem work_of_none (hd : j.fleet.desks[i]? = none) (s : Surroundings) : j.work i s = j := by
  simp only [work, hd]

theorem fleet_move (j : Journal) (m : Move) : (j.move c m).fleet = j.fleet.move c m := by
  cases m with
  | work i s =>
      change (j.work i s).fleet = j.fleet.work i s
      cases hd : j.fleet.desks[i]? with
      | none => rw [work_of_none hd, Fleet.work_of_none hd]
      | some d => rw [work_eq hd]
  | publish _ _ | create _ | refuse _ | start => rfl

/-- A journal does not change what a fleet does. -/
theorem fleet_run (c : Container) (moves : List Move) :
    (run c moves).fleet = Fleet.run c moves := by
  induction moves using List.reverseRecOn with
  | nil => rfl
  | append_singleton moves m ih => rw [run_concat, fleet_move, ih, Fleet.run_concat]

theorem copies_move (h : j.hops.map Hop.copy = j.fleet.copies) (m : Move) :
    (j.move c m).hops.map Hop.copy = (j.move c m).fleet.copies := by
  cases m with
  | work i s =>
      change (j.work i s).hops.map Hop.copy = (j.work i s).fleet.copies
      cases hd : j.fleet.desks[i]? with
      | none => rwa [work_of_none hd]
      | some d =>
          rw [work_eq hd, Fleet.work_eq hd]
          simp [h, Function.comp_def]
  | publish _ _ | create _ | refuse _ | start => exact h

/-- The hops are the copies of the fleet. -/
theorem copies_run (c : Container) (moves : List Move) :
    (run c moves).hops.map Hop.copy = (Fleet.run c moves).copies := by
  rw [← fleet_run]
  induction moves using List.reverseRecOn with
  | nil => rfl
  | append_singleton moves m ih =>
      rw [run_concat]
      exact copies_move ih m

end Journal

/-! ### The records of a hop -/

/-- The hop from `r` on a post to `r'`.  The state is that of a first attempt on the main stage,
whatever the headers say, and else what the headers say. -/
structure Hop.Made (c : Container) (b : Broker) (h : Hop) (p : Post) (r r' : Record) (t : Instant)
    (f : Failure) : Prop where
  mem : p ∈ c.posts
  topic : p.topic = h.copy.source.topic
  note : h.note = ⟨some t, some f⟩
  source : b.recordAt? h.copy.source = some r
  target : b.recordAt? h.copy.target = some r'
  main : p.stage.isMain = true → Record.PassedOn (.first r t) f r r'
  later : p.stage.isMain = false → ∀ state, RetryState.read r.headers = .ok (some state) →
    Record.PassedOn state f r r'

/-! ### Every hop -/

namespace Hop

variable {c : Container} {b b' : Broker} {h : Hop} {p : Post} {r r' : Record} {t : Instant}
  {f : Failure}

/-- A hop stays what it is when logs grow. -/
theorem Made.mono (hm : h.Made c b p r r' t f) (hext : b.Extends b') :
    h.Made c b' p r r' t f where
  mem := hm.mem
  topic := hm.topic
  note := hm.note
  source := hext.recordAt? hm.source
  target := hext.recordAt? hm.target
  main := hm.main
  later := hm.later

end Hop

/-- **A copy that is published** makes a hop. -/
theorem Fleet.Sound.made {c : Container} {f : Fleet} (hs : f.Sound c) {i : Nat} {d : Desk}
    (hd : f.desks[i]? = some d) {n : Note} (hn : Noted d.worker n d.worker.phase)
    (s : Surroundings) {a : Copy}
    (ha : a ∈ d.copied (f.broker.gained (d.worker.step s f.broker).broker)) :
    ∃ p r r' t g, Hop.Made c (d.worker.step s f.broker).broker ⟨a, n⟩ p r r' t g := by
  obtain ⟨history, hsession⟩ := hs.session
  have hb : f.broker.Regular := hsession.regular
  have hdoes := d.worker.does_step s f.broker
  have hext := extends_of_does hb hdoes
  by_cases hpub : ∃ r copy more, d.worker.phase = .publishing r copy more
  · obtain ⟨r, copy, more, hp⟩ := hpub
    have hr : d.worker.record? = some r := congrArg Phase.record? hp
    have hbroker := (hdoes.of_publishing hp).1
    simp only [Desk.copied, hr, List.mem_map] at ha
    obtain ⟨y, hy, rfl⟩ := ha
    rw [hp] at hn
    cases hn with
    | free h => cases h
    | @publishing _ _ _ t g hcopies =>
        obtain ⟨p, hat⟩ := hs.at hd hr
        have htarget : (d.worker.step s f.broker).broker.recordAt? y =
            some (Broker.recordOf y.topic y.partition y.offset
              (Broker.entryOf s.clock.now copy)) := by
          rw [hbroker] at hy ⊢
          exact Broker.recordAt?_of_gained hb hy
        refine ⟨p, r, _, t, g, hat.mem, hat.topic, rfl,
          hext.recordAt? (hs.held hd hr).1.recordAt?, htarget, fun hmain => ?_,
          fun hlater state hread => ?_⟩
        · rw [hat.stage] at hmain
          exact hcopies.passedOn (Worker.stateOf_of_isMain hmain t r) _ y
        · rw [hat.stage] at hlater
          exact hcopies.passedOn ((Worker.stateOf_of_not_isMain hlater t).mpr hread) _ y
  · -- no log grew
    have hgain := Desk.gained_of_does hdoes fun r copy more hp => hpub ⟨r, copy, more, hp⟩
    rw [hgain, Fleet.copied_nil] at ha
    cases ha

namespace Journal

variable {c : Container} {j : Journal}

/-- Notes go with what workers do, and hops with the logs. -/
structure Faithful (c : Container) (j : Journal) : Prop where
  noted : ∀ {i : Nat} {d : Desk}, j.fleet.desks[i]? = some d →
    Noted d.worker (j.notes i) d.worker.phase
  made : ∀ h ∈ j.hops, ∃ p r r' t f, h.Made c j.fleet.broker p r r' t f

theorem faithful_empty (c : Container) : Faithful c {} where
  noted := by simp
  made := by simp

theorem Faithful.work (hj : Faithful c j) (hs : j.fleet.Sound c) (i : Nat) (s : Surroundings) :
    Faithful c (j.work i s) := by
  cases hd : j.fleet.desks[i]? with
  | none => rwa [work_of_none hd]
  | some d =>
      obtain ⟨history, hsession⟩ := hs.session
      have hext : j.fleet.broker.Extends (d.worker.step s j.fleet.broker).broker :=
        Fleet.extends_of_does hsession.regular (d.worker.does_step s j.fleet.broker)
      rw [work_eq hd, Fleet.work_eq hd]
      constructor
      · -- a step of one worker leaves the others as they are, and their notes too
        intro k x hx
        dsimp only at hx ⊢
        rcases (Session.member_set hd).mp hx with ⟨rfl, rfl⟩ | ⟨hk, hx⟩
        · rw [if_pos rfl]
          exact (hj.noted hd).step s j.fleet.broker
        · rw [if_neg hk]
          exact hj.noted hx
      · -- the hops so far stay what they are, as logs only grow
        intro h hh
        rcases List.mem_append.mp hh with hh | hh
        · obtain ⟨p, r, r', t, f, hm⟩ := hj.made h hh
          exact ⟨p, r, r', t, f, hm.mono hext⟩
        · obtain ⟨a, ha, rfl⟩ := List.mem_map.mp hh
          exact hs.made hd (hj.noted hd) s ha

/-- A change of the broker from outside, and workers that join. -/
theorem Faithful.grow (hj : Faithful c j) {f : Fleet} {l : List Desk}
    (hext : j.fleet.broker.Extends f.broker) (hdesks : f.desks = j.fleet.desks ++ l)
    (hnew : ∀ x ∈ l, x.worker.record? = none) : Faithful c { j with fleet := f } where
  noted {i d} hd := by
    dsimp only at hd ⊢
    rw [hdesks, List.getElem?_append] at hd
    split at hd
    · exact hj.noted hd
    · exact .free (hnew d (List.mem_of_getElem? hd))
  made h hh := by
    obtain ⟨p, r, r', t, g, hm⟩ := hj.made h hh
    exact ⟨p, r, r', t, g, hm.mono hext⟩

theorem Faithful.move (hj : Faithful c j) (hs : j.fleet.Sound c) (m : Move) :
    Faithful c (j.move c m) := by
  obtain ⟨history, h⟩ := hs.session
  have hb : j.fleet.broker.Regular := h.regular
  cases m with
  | publish now r =>
      exact hj.grow (l := []) (Broker.extends_publish hb now r) (List.append_nil _).symm (by simp)
  | create requests =>
      exact hj.grow (l := []) (.of_log_eq (Broker.log_createTopics j.fleet.broker requests))
        (List.append_nil _).symm (by simp)
  | refuse n =>
      exact hj.grow (l := []) (Broker.Extends.refl _) (List.append_nil _).symm (by simp)
  | start =>
      refine hj.grow (.of_log_eq (Broker.log_createTopics j.fleet.broker _)) rfl fun x hx => ?_
      obtain ⟨w, hw, rfl⟩ := List.mem_map.mp hx
      rw [Worker.record?, (Container.mem_start hw).2.1]
      rfl
  | work i s => exact hj.work hs i s

/-- **The journal** of every run is faithful. -/
theorem faithful_run (c : Container) (moves : List Move) : Faithful c (run c moves) := by
  induction moves using List.reverseRecOn with
  | nil => exact faithful_empty c
  | append_singleton moves m ih =>
      rw [run_concat]
      exact ih.move (fleet_run c moves ▸ Fleet.sound_run c moves) m

end Journal

end Redelivery
