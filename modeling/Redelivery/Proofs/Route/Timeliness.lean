import Mathlib.Algebra.GroupWithZero.Nat
import Redelivery.Proofs.Chain.Layout
import Redelivery.Proofs.RetryState.Reading
import Redelivery.Proofs.Route.Walk

/-!
# Route — stages that are reached too late

A retry stage is marked when the chain is built if the delays up to it exceed the time limit
(`Role.retryPastTimeout`).  A record is given up there whatever the clock says.

**What the clock says** (`Timely`).  A record waits on each stage until it is due, as the headers of
its copy have it.  So when it stands on a stage, the delays up to there have passed since its first
attempt (`ChainSpec.elapsed_of_timely`), and on a marked stage its time is up by the clock as well.

**Without the marks** (`Resolver.unmarked`) records go the same ways: at each step of each run the
routes are the same, and the runs are the same (`timely_of_build`).
-/

namespace Redelivery

/-! ### Chains without marks -/

/-- The role without the mark that it is reached too late. -/
def Role.unmarked : Role → Role
  | .retryPastTimeout => .retry
  | role => role

/-- The stage without the mark that it is reached too late. -/
def Stage.unmarked (s : Stage) : Stage := { s with role := s.role.unmarked }

def Chain.unmarked (c : Chain) : Chain := ⟨c.main.unmarked, c.later.map Stage.unmarked⟩

def Resolver.unmarked (r : Resolver) : Resolver := { r with chain := r.chain.unmarked }

def Route.unmarked : Route → Route
  | .retry s => .retry s.unmarked
  | .deadLetter s reason => .deadLetter s.unmarked reason
  | .discard reason => .discard reason

theorem Role.unmarked_eq_iff {role want : Role} (h₁ : want ≠ .retry)
    (h₂ : want ≠ .retryPastTimeout) : role.unmarked = want ↔ role = want := by
  cases role <;> simp [unmarked, h₁.symm, h₂.symm]

@[simp] theorem Role.isRetry_unmarked (role : Role) : role.unmarked.isRetry = role.isRetry := by
  cases role <;> rfl

@[simp] theorem Role.isDeadLetter_unmarked (role : Role) :
    role.unmarked.isDeadLetter = role.isDeadLetter := by
  cases role <;> rfl

theorem Role.unmarked_ne (role : Role) : role.unmarked ≠ .retryPastTimeout := by
  cases role <;> exact Role.noConfusion

theorem Route.unmarked_eq_retry_iff {route : Route} {s : Stage} :
    route.unmarked = .retry s ↔ ∃ s', route = .retry s' ∧ s'.unmarked = s := by
  cases route <;> simp [unmarked]

theorem Route.reason?_unmarked (route : Route) : route.unmarked.reason? = route.reason? := by
  cases route <;> rfl

theorem Route.topic?_unmarked (route : Route) (m : String) :
    route.unmarked.topic? m = route.topic? m := by
  cases route <;> rfl

namespace Chain

variable (c : Chain)

theorem stages_unmarked : c.unmarked.stages = c.stages.map Stage.unmarked := rfl

/-- A stage is found in the chain without marks as it is found in the chain. -/
theorem find?_unmarked {p q : Stage → Bool} (h : ∀ s, p s.unmarked = q s) (l : List Stage) :
    (l.map Stage.unmarked).find? p = (l.find? q).map Stage.unmarked := by
  rw [List.find?_map, show p ∘ Stage.unmarked = q from funext h]

theorem indexOf?_unmarked (suffix : String) : c.unmarked.indexOf? suffix = c.indexOf? suffix := by
  rw [indexOf?, stages_unmarked, List.findIdx?_map]
  rfl

theorem bySuffix?_unmarked (suffix : String) :
    c.unmarked.bySuffix? suffix = (c.bySuffix? suffix).map Stage.unmarked := by
  rw [bySuffix?, stages_unmarked]
  exact find?_unmarked (fun _ => rfl) _

theorem deadLetter?_unmarked : c.unmarked.deadLetter? = c.deadLetter?.map Stage.unmarked := by
  rw [deadLetter?, stages_unmarked]
  refine find?_unmarked (fun s => ?_) _
  simp [Stage.unmarked, Role.unmarked_eq_iff]

theorem reroutedDeadLetter?_unmarked (suffix : String) :
    c.unmarked.reroutedDeadLetter? suffix =
      (c.reroutedDeadLetter? suffix).map Stage.unmarked := by
  rw [reroutedDeadLetter?, stages_unmarked]
  refine find?_unmarked (fun s => ?_) _
  simp [Stage.unmarked, Role.unmarked_eq_iff]

theorem nextRetryAfter?_unmarked (i : Nat) :
    c.unmarked.nextRetryAfter? i = (c.nextRetryAfter? i).map Stage.unmarked := by
  rw [nextRetryAfter?, stages_unmarked, ← List.map_drop]
  exact find?_unmarked (fun s => s.role.isRetry_unmarked) _

end Chain

namespace Resolver

variable (r : Resolver)

theorem toDeadLetters_unmarked (reason : TerminalReason) :
    r.unmarked.toDeadLetters reason = (r.toDeadLetters reason).unmarked := by
  rw [toDeadLetters, toDeadLetters, show r.unmarked.chain = r.chain.unmarked from rfl,
    Chain.deadLetter?_unmarked]
  cases r.chain.deadLetter? <;> rfl

theorem deadLetterFor_unmarked (f : Failure) (reason : TerminalReason) :
    r.unmarked.deadLetterFor f reason = (r.deadLetterFor f reason).unmarked := by
  have hrouted : (r.unmarked.chain.main.routing.suffixFor? f r.unmarked.classifier.traverse).bind
      r.unmarked.chain.reroutedDeadLetter? =
        ((r.chain.main.routing.suffixFor? f r.classifier.traverse).bind
          r.chain.reroutedDeadLetter?).map Stage.unmarked := by
    rw [Option.map_bind]
    exact Option.bind_congr fun suffix _ => r.chain.reroutedDeadLetter?_unmarked suffix
  simp only [deadLetterFor, hrouted]
  cases (r.chain.main.routing.suffixFor? f r.classifier.traverse).bind
      r.chain.reroutedDeadLetter? with
  | none => exact r.toDeadLetters_unmarked reason
  | some s => rfl

theorem retryAfter?_unmarked (current : Stage) :
    r.unmarked.retryAfter? current.unmarked = (r.retryAfter? current).map Stage.unmarked := by
  have hrole : current.unmarked.role = .reusableRetry ↔ current.role = .reusableRetry :=
    Role.unmarked_eq_iff Role.noConfusion Role.noConfusion
  unfold retryAfter?
  split
  · rename_i h
    rw [if_pos (hrole.mp h)]
    exact r.chain.bySuffix?_unmarked current.suffix
  · rename_i h
    rw [if_neg (mt hrole.mpr h), Option.map_bind]
    change (r.chain.unmarked.indexOf? current.suffix).bind _ = _
    rw [Chain.indexOf?_unmarked]
    exact Option.bind_congr fun i _ => r.chain.nextRetryAfter?_unmarked i

/-- Without the marks a record goes the same way, if the clock agrees with the mark. -/
theorem next_unmarked {current : Stage} {firstAttempt now : Instant}
    (h : current.role = .retryPastTimeout → r.isTimedOut firstAttempt now = true)
    (attempts : UInt32) (f : Failure) :
    r.unmarked.next current.unmarked attempts firstAttempt f now =
      (r.next current attempts firstAttempt f now).unmarked := by
  -- a record is late by the clock or by the mark, and the mark says no more than the clock
  have hlate : (r.isTimedOut firstAttempt now || current.role = .retryPastTimeout) =
      r.isTimedOut firstAttempt now := by
    by_cases hm : current.role = .retryPastTimeout
    · rw [h hm, Bool.true_or]
    · rw [decide_eq_false hm, Bool.or_false]
  have hlate' : (r.unmarked.isTimedOut firstAttempt now ||
      current.unmarked.role = .retryPastTimeout) = r.isTimedOut firstAttempt now := by
    have hm : current.unmarked.role ≠ .retryPastTimeout := current.role.unmarked_ne
    rw [decide_eq_false hm, Bool.or_false]
    rfl
  have hretry : (if attempts < current.unmarked.budget then
        r.unmarked.retryAfter? current.unmarked else none) =
      (if attempts < current.budget then r.retryAfter? current else none).map Stage.unmarked := by
    rw [retryAfter?_unmarked, apply_ite (Option.map Stage.unmarked)]
    rfl
  have hclass : r.unmarked.classifier = r.classifier := rfl
  have hdead : current.unmarked.role.isDeadLetter = current.role.isDeadLetter :=
    current.role.isDeadLetter_unmarked
  simp only [next, hlate, hlate', hretry, hclass, hdead, toDeadLetters_unmarked,
    deadLetterFor_unmarked]
  split
  · rfl
  · split
    · rfl
    · split
      · rfl
      · cases (if attempts < current.budget then r.retryAfter? current else none) <;> rfl

end Resolver

/-! ### Runs in which nothing comes early -/

/-- When and with which state a record stands on the stages of a run.  A clock that starts at the
epoch or after it never goes back, a copy is taken when it is due or later, and no due time is
beyond the last reading. -/
inductive Resolver.Timely (r : Resolver) : RetryState → Stage → Instant → Prop where
  /-- The record is taken from its main topic. -/
  | first (record : Record) {now : Instant} (hnow : 0 ≤ now.toInt) :
      Timely r (.first record now) r.chain.main now
  | later {state : RetryState} {stage : Stage} {now now' : Instant} (h : Timely r state stage now)
      (hnow : now.toInt ≤ now'.toInt) : Timely r state stage now'
  /-- The record fails, and its copy is taken from the next stage with the state in its headers. -/
  | retried {state state' : RetryState} {stage next : Stage} {now now' : Instant} {f : Failure}
      (headers : Headers) (h : Timely r state stage now)
      (hnext : r.next stage (nextCount state.attempts) state.firstAttempt f now = .retry next)
      (hfits : now.toInt + next.delay.toNat ≤ Int64.maxValue.toInt)
      (hread : RetryState.read ((state.nextHop f (now.after next.delay)).apply headers) =
        .ok (some state'))
      (hdue : ∀ due, state'.dueAt = some due → due.toInt ≤ now'.toInt) :
      Timely r state' next now'

theorem Resolver.Timely.mem {r : Resolver} {state : RetryState} {stage : Stage} {now : Instant}
    (h : r.Timely state stage now) : stage ∈ r.chain.stages := by
  induction h with
  | first _ _ => exact List.mem_cons_self ..
  | later _ _ ih => exact ih
  | retried _ _ hnext => exact mem_of_retryAfter? (retryAfter?_of_next hnext)

namespace ChainSpec

variable {s : ChainSpec} {draw : UInt32 → Nat} {c : Chain}

/-- The delays up to a stage have passed when a record stands there. -/
theorem elapsed_of_timely (h : s.build draw = .ok c) (hr : ¬ s.reuses (s.delays draw) = true)
    {r : Resolver} (hrc : r.chain = c) {state : RetryState} {stage : Stage} {now : Instant}
    (ht : r.Timely state stage now) :
    0 ≤ state.firstAttempt.toInt ∧ ∃ k : Nat, (c.main :: c.retries)[k]? = some stage ∧
      state.firstAttempt.toInt + (((s.delays draw).take k).map UInt64.toNat).sum ≤ now.toInt := by
  induction ht with
  | first record hnow => exact ⟨hnow, 0, hrc ▸ rfl, by simp [RetryState.first]⟩
  | later _ hnow ih =>
      obtain ⟨hpos, k, hk, hle⟩ := ih
      exact ⟨hpos, k, hk, Int.le_trans hle hnow⟩
  | @retried state state' stage next now now' f headers ht hnext hfits hread hdue ih =>
      obtain ⟨hpos, k, hk, hle⟩ := ih
      -- the next stage is the one after this
      have hafter := Resolver.retryAfter?_of_next hnext
      have hmem := List.mem_of_getElem? (getElem?_stages h hk)
      have hrole := retries_of_not_reuses h hr (mem_retries_of_retryAfter? h hrc hmem hafter)
      obtain ⟨-, j, hj, hnext'⟩ := of_retryAfter? h hrc hmem hafter hrole
      obtain rfl : j = k := (build_eq_ok h).2.1.eq_of_suffix (getElem?_stages h hj)
        (getElem?_stages h hk) rfl
      -- and its delay has passed, too
      rw [RetryState.read_nextHop] at hread
      cases hread
      have hpassed := hdue _ rfl
      have hsum : (((s.delays draw).take (j + 1)).map UInt64.toNat).sum =
          (((s.delays draw).take j).map UInt64.toNat).sum + next.delay.toNat := by
        rw [List.take_add_one, (getElem?_retries h hr hnext').1]
        simp
      refine ⟨hpos, j + 1, hnext', ?_⟩
      rw [Instant.toInt_after] at hpassed
      rw [hsum]
      change state.firstAttempt.toInt + _ ≤ _
      simp only [Int64.toInt_maxValue] at *
      omega

/-- **A marked stage** is reached when the time is up. -/
theorem isTimedOut_of_timely (h : s.build draw = .ok c) {r : Resolver} (hrc : r.chain = c)
    (hlimit : r.timeout = s.timeout) {state : RetryState} {stage : Stage} {now : Instant}
    (ht : r.Timely state stage now) (hmark : stage.role = .retryPastTimeout) :
    r.isTimedOut state.firstAttempt now = true := by
  by_cases hr : s.reuses (s.delays draw) = true
  · -- the only retry stage has no mark
    have hmem : stage ∈ c.retries := List.mem_filter.mpr ⟨hrc ▸ ht.mem, by rw [hmark]; rfl⟩
    obtain ⟨x, hx, hrole, -⟩ := retries_of_reuses h hr
    rw [hx, List.mem_singleton] at hmem
    rw [hmem, hrole] at hmark
    cases hmark
  · obtain ⟨hpos, k, hk, hle⟩ := elapsed_of_timely h hr hrc ht
    cases k with
    | zero =>
        obtain rfl := Option.some.inj hk
        rw [(build_eq_ok h).2.2.1] at hmark
        cases hmark
    | succ j =>
        obtain ⟨t, ht', -, hlt⟩ := (marked_iff h hr hk).mp hmark
        have hmax := Int64.toInt_le now
        refine (r.isTimedOut_iff _ _).mpr ⟨t, hlimit.trans ht', ?_, ?_⟩
        · omega
        · omega

end ChainSpec

/-- **Marks agree with the clock.**  On a marked stage the time is up by the clock as well, and
without the marks the routes of every run are the same. -/
theorem timely_of_build {s : ChainSpec} {draw : UInt32 → Nat} {c : Chain}
    (h : s.build draw = .ok c) (classifier : Classifier) :
    let r : Resolver := ⟨c, classifier, s.timeout⟩
    (∀ state stage now, r.Timely state stage now → stage.role = .retryPastTimeout →
      r.isTimedOut state.firstAttempt now = true) ∧
    (∀ state stage now, r.Timely state stage now → ∀ f : Failure,
      let attempts := nextCount state.attempts
      let route := r.next stage attempts state.firstAttempt f now
      let route' := r.unmarked.next stage.unmarked attempts state.firstAttempt f now
      route' = route.unmarked ∧ route'.reason? = route.reason? ∧
        ∀ main, route'.topic? main = route.topic? main) ∧
    ∀ state stage' now, r.unmarked.Timely state stage' now ↔
      ∃ stage, stage.unmarked = stage' ∧ r.Timely state stage now := by
  intro r
  have hmarked : ∀ state stage now, r.Timely state stage now → stage.role = .retryPastTimeout →
      r.isTimedOut state.firstAttempt now = true := fun state stage now =>
    ChainSpec.isTimedOut_of_timely h rfl rfl
  have hnext : ∀ {state stage now}, r.Timely state stage now → ∀ (attempts : UInt32)
      (f : Failure), r.unmarked.next stage.unmarked attempts state.firstAttempt f now =
        (r.next stage attempts state.firstAttempt f now).unmarked := fun ht =>
    r.next_unmarked (hmarked _ _ _ ht)
  refine ⟨hmarked, fun state stage now ht f => ?_, fun state stage' now => ⟨fun ht => ?_, ?_⟩⟩
  · dsimp only
    rw [hnext ht]
    exact ⟨rfl, Route.reason?_unmarked _, Route.topic?_unmarked _⟩
  · induction ht with
    | first record hnow => exact ⟨r.chain.main, rfl, .first record hnow⟩
    | later _ hnow ih =>
        obtain ⟨stage, rfl, ht⟩ := ih
        exact ⟨stage, rfl, ht.later hnow⟩
    | retried headers _ hnext' hfits hread hdue ih =>
        obtain ⟨stage, rfl, ht⟩ := ih
        rw [hnext ht] at hnext'
        obtain ⟨next, hroute, rfl⟩ := Route.unmarked_eq_retry_iff.mp hnext'
        exact ⟨next, rfl, ht.retried headers hroute hfits hread hdue⟩
  · rintro ⟨stage, rfl, ht⟩
    induction ht with
    | first record hnow => exact .first record hnow
    | later _ hnow ih => exact ih.later hnow
    | retried headers ht hroute hfits hread hdue ih =>
        refine ih.retried headers ?_ hfits hread hdue
        rw [hnext ht, hroute]
        rfl

/-- A second attempt after a second, when half a second is all the time there is. -/
def ChainSpec.hurried : ChainSpec :=
  { maxAttempts := 2, timeout := some 500, keepsDeadLetters := false }

/-- The chain whose retry comes too late. -/
def Chain.hurried : Chain :=
  ⟨ChainSpec.hurried.stage [1000] "" 0 .main none,
    [ChainSpec.hurried.stage [1000] "-retry-0" 1000 .retryPastTimeout none]⟩

/-- The time of a record is up on the retry stage of that chain. -/
theorem timely_of_build_hurried :
    ChainSpec.hurried.build (fun _ => 0) = .ok .hurried ∧
    ∃ state stage, Resolver.Timely ⟨.hurried, {}, some 500⟩ state stage 1000 ∧
      stage.role = .retryPastTimeout ∧
      Resolver.isTimedOut ⟨.hurried, {}, some 500⟩ state.firstAttempt 1000 = true := by
  have h : ChainSpec.hurried.build (fun _ => 0) = .ok .hurried := by decide
  let r : Resolver := ⟨.hurried, {}, some 500⟩
  let record : Record := ⟨"orders", 0, 0, none, none, .empty, none⟩
  have hfirst : r.Timely (.first record 0) Chain.hurried.main 0 := .first record (by decide)
  have hretry : r.next Chain.hurried.main 1 0 (Failure.new "error" "it failed") 0 =
      .retry (ChainSpec.hurried.stage [1000] "-retry-0" 1000 .retryPastTimeout none) := rfl
  obtain ⟨state, ht⟩ : ∃ state, r.Timely state
      (ChainSpec.hurried.stage [1000] "-retry-0" 1000 .retryPastTimeout none) 1000 := by
    refine ⟨_, hfirst.retried .empty hretry (by decide) (RetryState.read_nextHop ..) ?_⟩
    rintro due ⟨⟩
    decide
  exact ⟨h, state, _, ht, rfl, (timely_of_build h {}).1 _ _ _ ht rfl⟩

end Redelivery
