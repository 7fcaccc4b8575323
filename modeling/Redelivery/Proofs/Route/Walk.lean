import Mathlib.Data.Nat.Find
import Mathlib.Tactic.ByContra
import Redelivery.Proofs.Chain.Shape
import Redelivery.Proofs.Route.Offers

/-!
# Route — the walk of a record that fails again and again

A record that fails on every stage it is sent to is given up in its first attempt that is late,
fails fatally or is the last one allowed, whichever comes first in this order (`GivesUp`,
`EndsAt`).  Up to then it goes through the stages of the chain in order
(`ChainSpec.itinerary`).

**The walk.**  For every chain that can be built, the walk has these routes and no others
(`walk_of_build`).  It is followed step by step on any list of stages that lead to each other
(`Passes`): `Passes.next_eq_giveUp` and `Passes.next_eq_retry` are the two kinds of steps, and
`walkFrom_eq` puts them together.
-/

namespace Redelivery

/-- The stages of the attempts of a record that is always retried: the main stage, and then the
retry stages in order or, if the retries share one stage, this stage for all of them. -/
def ChainSpec.itinerary (s : ChainSpec) (draw : UInt32 → Nat) (c : Chain) : List Stage :=
  c.main ::
    if s.reuses (s.delays draw) then c.retries.flatMap (List.replicate (s.delays draw).length)
    else c.retries

namespace Resolver

/-- The time of a record is up.  The difference of the readings is that of the integers; a limit
that no difference of readings exceeds is never reached. -/
def Expired (r : Resolver) (firstAttempt now : Instant) : Prop :=
  ∃ t, r.timeout = some t ∧ (t.toNat : Int) < Int64.maxValue.toInt ∧
    (t.toNat : Int) < now.toInt - firstAttempt.toInt

/-- Attempt `n` fails too late: the time is up, or it was when the stage was reached. -/
def Late (r : Resolver) (stage : Stage) (firstAttempt now : Instant) : Prop :=
  r.Expired firstAttempt now ∨ stage.role = .retryPastTimeout

/-- Why a record that fails on a stage for the `n`th time is given up, if `budget` attempts are
allowed. -/
inductive GivesUp (r : Resolver) (budget n : Nat) (stage : Stage) (firstAttempt now : Instant)
    (f : Failure) : TerminalReason → Prop where
  | timeoutExpired (h : r.Late stage firstAttempt now) :
      GivesUp r budget n stage firstAttempt now f .timeoutExpired
  | fatal (h : ¬ r.Late stage firstAttempt now) (hf : r.classifier.classify f = .fatal) :
      GivesUp r budget n stage firstAttempt now f .fatal
  | attemptsExhausted (h : ¬ r.Late stage firstAttempt now)
      (hf : r.classifier.classify f ≠ .fatal) (hn : n = budget) :
      GivesUp r budget n stage firstAttempt now f .attemptsExhausted

/-- Where a record goes that is given up: what is late goes to the dead letters in general. -/
def giveUp (r : Resolver) (f : Failure) : TerminalReason → Route
  | .timeoutExpired => r.toDeadLetters .timeoutExpired
  | reason => r.deadLetterFor f reason

theorem reason?_giveUp (r : Resolver) (f : Failure) (reason : TerminalReason) :
    (r.giveUp f reason).reason? = some reason := by
  cases reason with
  | timeoutExpired => exact r.reason?_toDeadLetters _
  | fatal | attemptsExhausted | missingRetryHeaders => exact r.reason?_deadLetterFor f _

theorem isTimedOut_iff (r : Resolver) (firstAttempt now : Instant) :
    r.isTimedOut firstAttempt now = true ↔ r.Expired firstAttempt now := by
  unfold isTimedOut Expired
  split
  · rename_i t ht
    simp only [ht, Option.some.injEq, exists_eq_left', decide_eq_true_eq, Millis.toSpan,
      Int64.toInt_minValue, Int64.toInt_maxValue, Instant.toInt_since]
    omega
  · rename_i ht
    simp [ht]

/-! ### One step -/

/-- Where a record is retried is a retry stage. -/
theorem isRetry_of_retryAfter? {r : Resolver} (hc : r.chain.Shaped) {x y : Stage}
    (hx : x ∈ r.chain.stages) (hy : r.retryAfter? x = some y) : y.role.isRetry = true := by
  by_cases hrole : x.role = .reusableRetry
  · rw [retryAfter?, if_pos hrole, hc.bySuffix?_eq hx] at hy
    obtain rfl := Option.some.inj hy
    rw [hrole]
    rfl
  · rw [retryAfter?, if_neg hrole] at hy
    obtain ⟨i, -, hi⟩ := Option.bind_eq_some_iff.mp hy
    exact List.find?_some (p := fun s : Stage => s.role.isRetry) hi

/-- A list of stages that starts with the main stage, each of which leads to the next by a retry,
and which are as many as their budget says. -/
structure Passes (r : Resolver) (path : List Stage) : Prop where
  start : path[0]? = some r.chain.main
  budget : ∀ s ∈ path, s.budget.toNat = path.length
  isDeadLetter : ∀ s ∈ path, s.role.isDeadLetter = false
  leads : ∀ {k : Nat} {s s' : Stage}, path[k]? = some s → path[k + 1]? = some s' →
    r.retryAfter? s = some s'

section

variable {r : Resolver} {path : List Stage} {k : Nat} {stage : Stage} {firstAttempt now : Instant}
  {f : Failure}

/-- **A last step.** -/
theorem Passes.next_eq_giveUp (hp : r.Passes path) (hk : path[k]? = some stage)
    {reason : TerminalReason}
    (h : r.GivesUp path.length (k + 1) stage firstAttempt now f reason) :
    r.next stage (UInt32.ofNatClamp (k + 1)) firstAttempt f now = r.giveUp f reason := by
  have hlate : (r.isTimedOut firstAttempt now || stage.role = .retryPastTimeout) = true ↔
      r.Late stage firstAttempt now := by
    rw [Bool.or_eq_true, isTimedOut_iff, decide_eq_true_eq, Late]
  unfold Resolver.next
  cases h with
  | timeoutExpired h => rw [if_pos (hlate.mpr h)]; rfl
  | fatal h hf => rw [if_neg (mt hlate.mp h), if_pos hf]; rfl
  | attemptsExhausted h hf hn =>
      have hb := hp.budget stage (List.mem_of_getElem? hk)
      have hcount : ¬ UInt32.ofNatClamp (k + 1) < stage.budget := by
        rw [ofNatClamp_lt_iff]
        omega
      rw [if_neg (mt hlate.mp h), if_neg hf, if_neg hcount]
      split <;> rfl

/-- **A step in between.** -/
theorem Passes.next_eq_retry (hp : r.Passes path) (hk : path[k]? = some stage)
    (h : ∀ reason, ¬ r.GivesUp path.length (k + 1) stage firstAttempt now f reason) :
    ∃ s, path[k + 1]? = some s ∧
      r.next stage (UInt32.ofNatClamp (k + 1)) firstAttempt f now = .retry s := by
  have hlate : ¬ r.Late stage firstAttempt now := fun hl => h _ (.timeoutExpired hl)
  have hfatal : r.classifier.classify f ≠ .fatal := fun hf => h _ (.fatal hlate hf)
  have hne : k + 1 ≠ path.length := fun hn => h _ (.attemptsExhausted hlate hfatal hn)
  have hlt := (List.getElem?_eq_some_iff.mp hk).1
  have hs : path[k + 1]? = some path[k + 1] := List.getElem?_eq_getElem (by omega)
  refine ⟨_, hs, ?_⟩
  have hnot : ¬ (r.isTimedOut firstAttempt now || stage.role = .retryPastTimeout) = true := by
    rwa [Bool.or_eq_true, isTimedOut_iff, decide_eq_true_eq]
  have hdead : ¬ stage.role.isDeadLetter = true := by
    simp [hp.isDeadLetter stage (List.mem_of_getElem? hk)]
  have hcount : UInt32.ofNatClamp (k + 1) < stage.budget := by
    rw [ofNatClamp_lt_iff, hp.budget stage (List.mem_of_getElem? hk)]
    omega
  unfold Resolver.next
  rw [if_neg hnot, if_neg hfatal, if_neg hdead, if_pos hcount, hp.leads hk hs]

end

/-! ### The whole walk -/

section

variable (r : Resolver) (path : List Stage) (firstAttempt : Instant) (failures : Nat → Failure)
  (clock : Nat → Instant)

/-- A record whose attempts are made on the stages of `path`, in order, is given up in attempt
`n`. -/
def EndsAt (n : Nat) (reason : TerminalReason) : Prop :=
  1 ≤ n ∧ ∃ stage, path[n - 1]? = some stage ∧
    r.GivesUp path.length n stage firstAttempt (clock n) (failures n) reason

variable {r path firstAttempt failures clock}

/-- The attempts before the end are retried, and the one at the end is given up. -/
theorem walkFrom_eq (hp : r.Passes path) {n : Nat} {reason : TerminalReason}
    (hn : r.EndsAt path firstAttempt failures clock n reason)
    (hleast : ∀ k < n, ∀ reason, ¬ r.EndsAt path firstAttempt failures clock k reason)
    (limit : Nat) {k : Nat} {stage : Stage} (hk : k < n) (hs : path[k]? = some stage) :
    r.walkFrom firstAttempt failures clock limit (k + 1) stage =
      (((path.drop (k + 1)).take (n - 1 - k)).map Route.retry ++
        [r.giveUp (failures n) reason]).take limit := by
  induction limit generalizing k stage with
  | zero => rfl
  | succ limit ih =>
      by_cases hkn : k + 1 = n
      · -- the last attempt
        subst hkn
        obtain ⟨-, stage', hs', hg⟩ := hn
        obtain rfl : stage' = stage := Option.some.inj (hs'.symm.trans hs)
        have hreason := r.reason?_giveUp (failures (k + 1)) reason
        simp only [walkFrom, hp.next_eq_giveUp hs hg]
        split
        · rename_i s h
          rw [h] at hreason
          cases hreason
        · simp
      · -- an attempt before it, which leads to the next stage of the path
        have hnot : ∀ reason, ¬ r.GivesUp path.length (k + 1) stage firstAttempt (clock (k + 1))
            (failures (k + 1)) reason := fun reason hg =>
          hleast (k + 1) (by omega) reason ⟨by omega, stage, hs, hg⟩
        obtain ⟨s, hs', hnext⟩ := hp.next_eq_retry hs hnot
        obtain ⟨hlt, rfl⟩ := List.getElem?_eq_some_iff.mp hs'
        have htake : n - 1 - k = (n - 1 - (k + 1)) + 1 := by omega
        simp only [walkFrom, hnext, ih (by omega) hs']
        rw [List.drop_eq_getElem_cons hlt, htake, List.take_succ_cons, List.map_cons,
          List.cons_append, List.take_succ_cons]

/-- Some attempt is the last one. -/
theorem Passes.exists_endsAt (hp : r.Passes path) (firstAttempt : Instant)
    (failures : Nat → Failure) (clock : Nat → Instant) :
    ∃ n reason, r.EndsAt path firstAttempt failures clock n reason ∧
      ∀ k < n, ∀ reason, ¬ r.EndsAt path firstAttempt failures clock k reason := by
  classical
  have hpos := (List.getElem?_eq_some_iff.mp hp.start).1
  have hex : ∃ n reason, r.EndsAt path firstAttempt failures clock n reason := by
    -- if none ends before, the one at the end of the path does
    have hs : path[path.length - 1]? = some path[path.length - 1] :=
      List.getElem?_eq_getElem (by omega)
    by_cases hl : r.Late path[path.length - 1] firstAttempt (clock path.length)
    · exact ⟨_, _, hpos, _, hs, .timeoutExpired hl⟩
    · by_cases hf : r.classifier.classify (failures path.length) = .fatal
      · exact ⟨_, _, hpos, _, hs, .fatal hl hf⟩
      · exact ⟨_, _, hpos, _, hs, .attemptsExhausted hl hf rfl⟩
  obtain ⟨reason, h⟩ := Nat.find_spec hex
  exact ⟨Nat.find hex, reason, h, fun k hk reason hr => Nat.find_min hex hk ⟨reason, hr⟩⟩

end

end Resolver

/-! ### Chains that were built -/

namespace ChainSpec

variable {s : ChainSpec} {draw : UInt32 → Nat} {c : Chain}

/-- The retries share a stage: there is one, and it is entered again and again. -/
theorem retries_of_reuses (h : s.build draw = .ok c) (hr : s.reuses (s.delays draw) = true) :
    ∃ x, c.retries = [x] ∧ x.role = .reusableRetry ∧ x.budget = s.budget (s.delays draw) := by
  rw [retries_build h, retriesFor, if_pos hr]
  exact ⟨_, rfl, rfl, rfl⟩

/-- The retries have a stage each. -/
theorem retries_of_not_reuses (h : s.build draw = .ok c)
    (hr : ¬ s.reuses (s.delays draw) = true) {x : Stage} (hx : x ∈ c.retries) :
    x.role ≠ .reusableRetry := by
  rw [retries_build h, retriesFor, if_neg hr] at hx
  rcases mem_retryStages hx with e | e <;> rw [e] <;> decide

theorem length_itinerary (h : s.build draw = .ok c) :
    (s.itinerary draw c).length = s.attempts draw := by
  have hlen := s.length_retriesFor (s.delays draw)
  rw [← retries_build h] at hlen
  unfold itinerary attempts
  split
  · rename_i hr
    obtain ⟨x, hx, -⟩ := retries_of_reuses h hr
    simp [hx]
  · rename_i hr
    rw [if_neg hr] at hlen
    simp [hlen]

theorem mem_itinerary {x : Stage} (hx : x ∈ s.itinerary draw c) : x ∈ c.main :: c.retries := by
  rcases List.mem_cons.mp hx with rfl | hx
  · exact List.mem_cons_self ..
  · refine List.mem_cons_of_mem _ ?_
    split at hx
    · obtain ⟨y, hy, hx⟩ := List.mem_flatMap.mp hx
      rw [List.eq_of_mem_replicate hx]
      exact hy
    · exact hx

theorem budget_of_mem_itinerary (h : s.build draw = .ok c) {x : Stage}
    (hx : x ∈ s.itinerary draw c) : x.budget = s.budget (s.delays draw) := by
  have hmem : x ∈ c.stages := by
    rw [stages_build h, ← List.cons_append]
    exact List.mem_append_left _ (mem_itinerary hx)
  rw [stages_of_build h] at hmem
  exact (carried_of_mem_stages hmem).1

/-- No stage with attempts is a dead-letter stage. -/
theorem not_isDeadLetter (h : s.build draw = .ok c) {x : Stage} (hx : x ∈ c.main :: c.retries) :
    x.role.isDeadLetter = false := by
  rcases List.mem_cons.mp hx with rfl | hx
  · rw [(build_eq_ok h).2.2.1]
    rfl
  · exact Role.isDeadLetter_of_isRetry (List.mem_filter.mp hx).2

/-- The stages with attempts come first. -/
theorem getElem?_stages (h : s.build draw = .ok c) {k : Nat} {x : Stage}
    (hx : (c.main :: c.retries)[k]? = some x) : c.stages[k]? = some x := by
  rw [stages_build h, ← List.cons_append,
    List.getElem?_append_left (List.getElem?_eq_some_iff.mp hx).1, hx]

/-- The retry stage after a stage that is not entered again. -/
theorem retryAfter?_eq (h : s.build draw = .ok c) {r : Resolver} (hrc : r.chain = c) {k : Nat}
    {x y : Stage} (hx : (c.main :: c.retries)[k]? = some x) (hy : c.retries[k]? = some y)
    (hrole : x.role ≠ .reusableRetry) : r.retryAfter? x = some y := by
  have hy' : c.stages[k + 1]? = some y := getElem?_stages h hy
  have hretry : y.role.isRetry = true :=
    (List.mem_filter.mp (List.mem_of_getElem? hy)).2
  obtain ⟨hlt, rfl⟩ := List.getElem?_eq_some_iff.mp hy'
  rw [Resolver.retryAfter?, if_neg hrole, hrc,
    (build_eq_ok h).2.1.indexOf?_eq (getElem?_stages h hx), Option.bind_some,
    Chain.nextRetryAfter?, List.drop_eq_getElem_cons hlt, List.find?_cons, hretry]

/-- A retry leads to a retry stage. -/
theorem mem_retries_of_retryAfter? (h : s.build draw = .ok c) {r : Resolver} (hrc : r.chain = c)
    {x y : Stage} (hx : x ∈ c.stages) (hy : r.retryAfter? x = some y) : y ∈ c.retries := by
  subst hrc
  exact List.mem_filter.mpr ⟨Resolver.mem_of_retryAfter? hy,
    Resolver.isRetry_of_retryAfter? (build_eq_ok h).2.1 hx hy⟩

/-- A retry stage that is not entered again comes after the stage that leads to it. -/
theorem of_retryAfter? (h : s.build draw = .ok c) {r : Resolver} (hrc : r.chain = c)
    {x y : Stage} (hx : x ∈ c.stages) (hy : r.retryAfter? x = some y)
    (hrole : y.role ≠ .reusableRetry) :
    x.role ≠ .reusableRetry ∧
      ∃ k : Nat, (c.main :: c.retries)[k]? = some x ∧ c.retries[k]? = some y := by
  have hshaped := (build_eq_ok h).2.1
  have hx' : x.role ≠ .reusableRetry := by
    intro hreused
    rw [Resolver.retryAfter?, if_pos hreused, hrc, hshaped.bySuffix?_eq hx] at hy
    exact hrole (Option.some.inj hy ▸ hreused)
  obtain ⟨k, hk⟩ := List.getElem?_of_mem hx
  refine ⟨hx', k, ?_⟩
  by_cases hlt : k < c.retries.length
  · have hk' : (c.main :: c.retries)[k]? = some x := by
      rw [stages_build h, ← List.cons_append, List.getElem?_append_left (by simp; omega)] at hk
      exact hk
    have hnext := retryAfter?_eq h hrc hk' (List.getElem?_eq_getElem hlt) hx'
    exact ⟨hk', by rw [List.getElem?_eq_getElem hlt, ← hnext, hy]⟩
  · -- behind the last retry stage there are dead-letter stages only
    rw [Resolver.retryAfter?, if_neg hx', hrc, hshaped.indexOf?_eq hk, Option.bind_some,
      Chain.nextRetryAfter?, stages_build h, List.drop_succ_cons, List.drop_append,
      List.drop_eq_nil_of_le (by omega), List.nil_append] at hy
    have hdead := mem_deadLetterStages (List.mem_of_mem_drop (List.mem_of_find?_eq_some hy))
    have hretry : y.role.isRetry = true := by simpa using List.find?_some hy
    rw [Role.isDeadLetter_of_isRetry hretry] at hdead
    cases hdead

/-- The itinerary leads through the chain. -/
theorem passes_itinerary (h : s.build draw = .ok c) (classifier : Classifier)
    (timeout : Option Millis) :
    Resolver.Passes ⟨c, classifier, timeout⟩ (s.itinerary draw c) where
  start := rfl
  budget x hx := by
    rw [budget_of_mem_itinerary h hx, toNat_budget (build_eq_ok h).1, length_itinerary h]
  isDeadLetter x hx := not_isDeadLetter h (mem_itinerary hx)
  leads {k x y} hx hy := by
    have hmain : c.main.role ≠ .reusableRetry := by
      rw [(build_eq_ok h).2.2.1]
      exact Role.noConfusion
    by_cases hr : s.reuses (s.delays draw) = true
    · obtain ⟨z, hz, hrole, -⟩ := retries_of_reuses h hr
      simp only [itinerary, if_pos hr, hz, List.flatMap_cons, List.flatMap_nil,
        List.append_nil] at hx hy
      rw [List.getElem?_cons_succ] at hy
      obtain rfl := List.eq_of_mem_replicate (List.mem_of_getElem? hy)
      cases k with
      | zero =>
          obtain rfl := Option.some.inj hx
          exact retryAfter?_eq h rfl (k := 0) rfl (by rw [hz]; rfl) hmain
      | succ k =>
          rw [List.getElem?_cons_succ] at hx
          obtain rfl := List.eq_of_mem_replicate (List.mem_of_getElem? hx)
          rw [Resolver.retryAfter?, if_pos hrole]
          refine (build_eq_ok h).2.1.bySuffix?_eq ?_
          simp [stages_build h, hz]
    · simp only [itinerary, if_neg hr] at hx hy
      refine retryAfter?_eq h rfl hx hy ?_
      rcases List.mem_cons.mp (List.mem_of_getElem? hx) with rfl | hx
      · exact hmain
      · exact retries_of_not_reuses h hr hx

end ChainSpec

/-- **The walk** of a record through a chain that was built: it is retried on the stages of the
itinerary, of which there are as many as attempts, until the first attempt in which it is given
up. -/
theorem walk_of_build {s : ChainSpec} {draw : UInt32 → Nat} {c : Chain}
    (h : s.build draw = .ok c) (classifier : Classifier) (timeout : Option Millis)
    (firstAttempt : Instant) (failures : Nat → Failure) (clock : Nat → Instant) :
    let r : Resolver := ⟨c, classifier, timeout⟩
    let path := s.itinerary draw c
    path.length = s.attempts draw ∧
    (s.backoff.NeverStops → s.attempts draw = s.maxAttempts.toNat) ∧
    (s.reuses (s.delays draw) = true → ∃ x, c.retries = [x] ∧ x.role = .reusableRetry) ∧
    ∃ n reason, r.EndsAt path firstAttempt failures clock n reason ∧
      (∀ k < n, ∀ reason, ¬ r.EndsAt path firstAttempt failures clock k reason) ∧
      (r.giveUp (failures n) reason).reason? = some reason ∧
      ∀ limit, r.walk firstAttempt failures clock limit =
        ((path.tail.take (n - 1)).map Route.retry ++ [r.giveUp (failures n) reason]).take
          limit := by
  intro r path
  have hp := ChainSpec.passes_itinerary h classifier timeout
  refine ⟨ChainSpec.length_itinerary h,
    fun hs => ChainSpec.attempts_eq (ChainSpec.build_eq_ok h).1 hs draw, fun hr => ?_, ?_⟩
  · obtain ⟨x, hx, hrole, -⟩ := ChainSpec.retries_of_reuses h hr
    exact ⟨x, hx, hrole⟩
  · obtain ⟨n, reason, hn, hleast⟩ := hp.exists_endsAt firstAttempt failures clock
    refine ⟨n, reason, hn, hleast, r.reason?_giveUp _ reason, fun limit => ?_⟩
    have := Resolver.walkFrom_eq hp hn hleast limit (k := 0) (by have := hn.1; omega) hp.start
    simpa [Resolver.walk] using this

/-- The walk for one retry ends with some attempt. -/
theorem walk_of_build_once :
    ChainSpec.once.build (fun _ => 0) = .ok .once ∧
    ∃ n reason, Resolver.EndsAt ⟨.once, {}, none⟩
      (ChainSpec.once.itinerary (fun _ => 0) .once) 0
      (fun _ => Failure.new "error" "it failed") (fun _ => 0) n reason := by
  have h : ChainSpec.once.build (fun _ => 0) = .ok .once := by decide
  obtain ⟨-, -, -, n, reason, hn, -⟩ := walk_of_build h {} none 0
    (fun _ => Failure.new "error" "it failed") (fun _ => 0)
  exact ⟨h, n, reason, hn⟩

end Redelivery
