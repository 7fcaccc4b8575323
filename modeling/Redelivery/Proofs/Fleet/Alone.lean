import Redelivery.Proofs.Worker.Waits

/-!
# Fleet — a worker alone with its broker

A worker that is left alone with its broker makes step after step in surroundings that follow each
other (`Solo.run`).  What can be seen of it is noted: what user code was given, the places that logs
gained, and how the worker parted with its records (`Parting`).

What the worker comes to sooner or later is said by `Solo.Leads`, which is closed under further
steps and under what these lead to (`Leads.trans`).  A worker that sleeps wakes if time goes on
(`leads_awake`).
-/

namespace Redelivery

/-- How a worker let go of a record. -/
structure Parting where
  record : Record
  /-- Why the record was not acknowledged, if it was not. -/
  reason : Option DispatchError
  /-- Where the worker's group is in the record's partition from then on. -/
  cursor : Cursor
  deriving DecidableEq

/-- A worker and its broker, and what can be seen of them. -/
structure Solo where
  worker : Worker
  broker : Broker
  /-- What user code was given. -/
  events : List WorkerEvent := []
  /-- The places that logs gained. -/
  copies : List Place := []
  /-- How the worker let go of records. -/
  partings : List Parting := []

namespace Worker

/-- The cursor of the worker's group for the partition of a record. -/
def cursorId (w : Worker) (r : Record) : CursorId := ⟨w.consumer.group, r.topic, r.partition⟩

/-- How the worker lets go of its record in a step that leads to a broker, if it does. -/
def partings (w : Worker) (b : Broker) : List Parting :=
  match w.phase with
  | .committing r => [⟨r, none, b.cursor (w.cursorId r)⟩]
  | .returning r why => [⟨r, some why, b.cursor (w.cursorId r)⟩]
  | _ => []

variable {w : Worker} {s : Surroundings} {b : Broker}

/-! ### What steps leave alone -/

theorem refusing_begin (due now : Instant) (s : Shutdown) (m : Membership) :
    (DueWait.begin due now s m).2.broker.refusing = m.broker.refusing := by
  rcases DueWait.begin_cases due now s m with ⟨-, h⟩ | ⟨e, y, hp, h⟩ | ⟨y, hp, -, h⟩ |
    ⟨y, wait, hp, -, h⟩
  · rw [h]
  · cases hp
  · rw [h]
    cases hp
    rfl
  · rw [h]
    cases hp
    rfl

theorem refusing_wake (wait : DueWait) (now : Instant) (s : Shutdown) (seen : Nat)
    (m : Membership) : (wait.wake now s seen m).2.broker.refusing = m.broker.refusing := by
  obtain ⟨y, hy, h | ⟨result, h, -⟩⟩ := wait.wake_cases now s seen m <;> rw [h]
  · rcases hy with rfl | rfl <;> rfl
  · rcases hy with rfl | rfl <;> rfl

theorem refusing_take {m m' : Membership} {x : Option Record} (h : m.take = (x, m')) :
    m'.broker.refusing = m.broker.refusing := by
  cases x with
  | none => rw [(Membership.take_eq_none h).1]
  | some r =>
      obtain ⟨_, _, -, -, -, -, hb, -⟩ := Membership.take_eq_some h
      rw [hb]
      rfl

theorem refusing_giveBack (group : String) (b : Broker) (held : List (String × Int)) :
    (held.foldl (Membership.giveBack group) b).refusing = b.refusing := by
  induction held generalizing b with
  | nil => rfl
  | cons x held ih => exact ih _

theorem refusing_polling (m : Membership) (deadline : Nat) (seen : Option Nat) :
    (w.stepPolling s m deadline seen).broker.refusing = m.broker.refusing := by
  unfold stepPolling
  split
  · rfl
  · split
    · split
      · rename_i h
        exact refusing_take h
      · rename_i h
        exact refusing_take h
    · split <;> rfl

theorem refusing_opening (m : Membership) (r : Record) :
    (w.stepOpening s m r).broker.refusing = m.broker.refusing := by
  unfold stepOpening
  split
  · rfl
  · split
    · rfl
    · rename_i due _
      have hbegin := refusing_begin due s.clock.now s.shutdown m
      split
      · rename_i h
        rw [h] at hbegin
        exact hbegin
      · rename_i h
        rw [h] at hbegin
        exact hbegin

theorem refusing_waiting (m : Membership) (r : Record) (state : RetryState) (wait : DueWait) :
    (w.stepWaiting s m r state wait).broker.refusing = m.broker.refusing := by
  have hwake := refusing_wake wait s.clock.now s.shutdown w.seenSignal m
  unfold stepWaiting
  dsimp only
  split
  · rename_i h
    rw [h] at hwake
    exact hwake
  · rename_i h
    rw [h] at hwake
    exact hwake

/-- Only publications are refused. -/
theorem refusing_step (hp : ∀ r copy more, w.phase ≠ .publishing r copy more) :
    (w.step s b).broker.refusing = b.refusing := by
  unfold step
  dsimp only
  split
  · rfl
  · cases hphase : w.phase with
    | publishing r copy more => exact absurd hphase (hp r copy more)
    | polling deadline seen => exact refusing_polling _ deadline seen
    | opening r => exact refusing_opening _ r
    | waiting r state wait wakeAt => exact refusing_waiting _ r state wait
    | returning r why => cases why <;> rfl
    | closing => exact refusing_giveBack _ b _
    | idle | handling r state | committing r | pausing wakeAt | stopped => rfl

/-- A signal that was not set since is not noticed. -/
theorem seenSignal_step (hs : s.shutdown.version = w.seenSignal) :
    (w.step s b).worker.seenSignal = w.seenSignal := by
  unfold step
  dsimp only
  split
  · rfl
  · split <;> try rfl
    · unfold stepPolling
      repeat' split
      all_goals first | rfl | exact hs
    · unfold stepOpening
      repeat' split
      all_goals rfl
    · unfold stepWaiting
      dsimp only
      split <;> exact hs
    · unfold stepReturning
      dsimp only
      split <;> rfl
    · exact hs

end Worker

namespace Solo

/-- A worker and its broker after a step. -/
def step (x : Solo) (s : Surroundings) : Solo :=
  let t := x.worker.step s x.broker
  { worker := t.worker
    broker := t.broker
    events := x.events ++ t.events
    copies := x.copies ++ x.broker.gained t.broker
    partings := x.partings ++ x.worker.partings t.broker }

/-- A worker and its broker after so many steps, in surroundings that follow each other. -/
def run (σ : Nat → Surroundings) (x : Solo) : Nat → Solo
  | 0 => x
  | n + 1 => (run σ x n).step (σ n)

/-- How a worker has parted with a record is not undone. -/
theorem partings_run (σ : Nat → Surroundings) (x : Solo) {m n : Nat} (h : m ≤ n) :
    (run σ x m).partings <+: (run σ x n).partings := by
  induction h with
  | refl => exact List.prefix_rfl
  | step _ ih => exact ih.trans (List.prefix_append _ _)

/-- From moment `n` on, the worker comes to what `P` says. -/
inductive Leads (σ : Nat → Surroundings) (P : Nat → Solo → Prop) : Nat → Solo → Prop where
  | here {n : Nat} {x : Solo} (h : P n x) : Leads σ P n x
  | later {n : Nat} {x : Solo} (h : Leads σ P (n + 1) (x.step (σ n))) : Leads σ P n x

variable {σ : Nat → Surroundings} {P Q : Nat → Solo → Prop} {n : Nat} {x : Solo}

theorem Leads.trans (h : Leads σ P n x) (hPQ : ∀ m y, n ≤ m → P m y → Leads σ Q m y) :
    Leads σ Q n x := by
  induction h with
  | here h => exact hPQ _ _ (Nat.le_refl _) h
  | later _ ih => exact .later (ih fun m y hm => hPQ m y (by omega))

/-- What the worker comes to is a state of its run. -/
theorem Leads.exists_run {x₀ : Solo} (h : Leads σ P n x) (hx : run σ x₀ n = x) :
    ∃ m, P m (run σ x₀ m) := by
  induction h with
  | here h => exact ⟨_, hx ▸ h⟩
  | later _ ih => exact ih (by rw [run, hx])

/-! ### Sleeping -/

/-- A worker that is not ready leaves no trace. -/
theorem step_of_not_isReady {s : Surroundings} (h : x.worker.isReady s x.broker = false) :
    x.step s = x := by
  have hstep : x.worker.step s x.broker = ⟨x.worker, x.broker, []⟩ := by
    rw [Worker.step, h]
    rfl
  have hparts : x.worker.partings x.broker = [] := by
    unfold Worker.partings
    unfold Worker.isReady at h
    split at h <;> simp_all
  have hgained : x.broker.gained x.broker = [] := Broker.gained_of_log_eq fun _ _ => rfl
  simp only [step, hstep, hparts, hgained, List.append_nil]

theorem isReady_of_deadline? {w : Worker} {s : Surroundings} {t : Nat}
    (h : w.deadline? = some t) (ht : t ≤ s.clock.elapsed) (b : Broker) :
    w.isReady s b = true := by
  unfold Worker.deadline? at h
  unfold Worker.isReady
  split at h <;> simp_all

/-- A worker that sleeps until some time wakes, if the time comes. -/
theorem leads_awake {t : Nat} (h : x.worker.deadline? = some t)
    (ht : ∃ k, ∀ m, k ≤ m → t ≤ (σ m).clock.elapsed) (n : Nat) :
    Leads σ (fun m y => y = x ∧ n ≤ m ∧ x.worker.isReady (σ m) x.broker = true) n x := by
  obtain ⟨k, hk⟩ := ht
  -- the number of moments until the time has come for good
  generalize hd : k - n = d
  induction d generalizing n with
  | zero =>
      have hready := isReady_of_deadline? h (hk n (by omega)) x.broker
      exact .here ⟨rfl, Nat.le_refl n, hready⟩
  | succ d ih =>
      cases hready : x.worker.isReady (σ n) x.broker with
      | true => exact .here ⟨rfl, Nat.le_refl n, hready⟩
      | false =>
          refine .later ?_
          rw [step_of_not_isReady hready]
          exact (ih (n + 1) (by omega)).trans fun m y _ hy => .here ⟨hy.1, by omega, hy.2.2⟩

end Solo

end Redelivery
