import Mathlib.Data.List.Pairwise
import Redelivery.Proofs.Route.Walk

/-!
# Route — progress

A chain may be made of any stages that `Chain.ofStages` accepts: behind the main stage they come in
any order, retry stages behind the dead letters among them, and each allows its own number of
attempts.

**One step** (`forwards_next`, `ends_next`).  A record that is retried goes to a retry stage of the
chain that comes later, or stays where it is if its stage is entered again and again
(`Chain.Onward`), and it has attempts left (`Chain.Forwards`).  A record that is not retried goes to
a dead-letter stage of the chain, or is discarded, if the chain has no such stage (`Chain.Ends`).

**All steps** (`progress_of_ofStages`).  Since each attempt counts, a record that fails again and
again is retried at most as often as the largest number of attempts that a stage allows exceeds the
count it started with (`Resolver.Walks.length_le`).  On its way it only goes on, and it does not
leave a stage that is entered again and again but to end (`Resolver.Walks.pairwise`).
-/

namespace Redelivery

namespace Chain

/-- From one stage to where its records are retried: a later stage, or the same stage if it is
entered again and again. -/
inductive Onward (c : Chain) (s s' : Stage) : Prop where
  | again (h : s.role = .reusableRetry) (he : s' = s)
  | later (h : s.role ≠ .reusableRetry) {i j : Nat} (hi : c.stages[i]? = some s)
      (hj : c.stages[j]? = some s') (hlt : i < j)

/-- A record that was attempted so often can be retried on a stage after another. -/
structure Forwards (c : Chain) (current : Stage) (attempts : UInt32) (next : Stage) : Prop where
  mem : next ∈ c.stages
  isRetry : next.role.isRetry = true
  attempts_lt : attempts < current.budget
  onward : c.Onward current next

/-- A record can be given up: it goes to a dead-letter stage, or there is none. -/
inductive Ends (c : Chain) : Route → Prop where
  | deadLetter {s d : Stage} {reason : TerminalReason} (hs : s ∈ c.stages)
      (hrole : s.role.isDeadLetter = true) (hd : d ∈ c.stages) (hdefault : d.role = .deadLetter) :
      Ends c (.deadLetter s reason)
  | discard {reason : TerminalReason} (h : ∀ s ∈ c.stages, s.role ≠ .deadLetter) :
      Ends c (.discard reason)

/-- The largest number of attempts that a stage of the chain allows. -/
def largestBudget (c : Chain) : Nat := (c.stages.map (·.budget.toNat)).foldr max 0

theorem le_largestBudget {c : Chain} {s : Stage} (hs : s ∈ c.stages) :
    s.budget.toNat ≤ c.largestBudget := by
  unfold largestBudget
  generalize c.stages = l at hs
  induction l with
  | nil => cases hs
  | cons x l ih =>
      rw [List.map_cons, List.foldr_cons]
      rcases List.mem_cons.mp hs with rfl | hs
      · exact Nat.le_max_left _ _
      · exact Nat.le_trans (ih hs) (Nat.le_max_right _ _)

/-- Dead letters of certain kinds are accepted only beside those in general. -/
theorem exists_deadLetter {l : List Stage} {c : Chain} (h : ofStages l = .ok c) {s : Stage}
    (hs : s ∈ c.stages) (hrole : s.role.isDeadLetter = true) :
    ∃ d ∈ c.stages, d.role = .deadLetter := by
  obtain ⟨rfl, -⟩ := ofStages_eq_ok h
  obtain ⟨-, -, -, -, hrerouted⟩ := exists_ofStages_iff.mp ⟨c, h⟩
  by_contra hnone
  have hzero : countRole c.stages .deadLetter = 0 :=
    List.countP_eq_zero.mpr fun d hd hdefault => hnone ⟨d, hd, of_decide_eq_true hdefault⟩
  have hnot : s.role ≠ .reroutedDeadLetter := fun hr =>
    absurd (decide_eq_true hr) (List.countP_eq_zero.mp (hrerouted hzero) s hs)
  have hnot' : s.role ≠ .deadLetter := fun hr => hnone ⟨s, hs, hr⟩
  cases hr : s.role with
  | deadLetter => exact hnot' hr
  | reroutedDeadLetter => exact hnot hr
  | main | retry | reusableRetry | retryPastTimeout => simp [hr, Role.isDeadLetter] at hrole

theorem Onward.trans {c : Chain} (hc : c.Shaped) {x y z : Stage} (hxy : c.Onward x y)
    (hyz : c.Onward y z) : c.Onward x z := by
  cases hxy with
  | again h he => exact he ▸ hyz
  | later h hi hj hlt =>
      cases hyz with
      | again _ he => exact he ▸ .later h hi hj hlt
      | later _ hj' hk hlt' =>
          obtain rfl := hc.eq_of_suffix hj hj' rfl
          exact .later h hi hk (Nat.lt_trans hlt hlt')

end Chain

namespace Resolver

/-! ### One step -/

/-- A retry leads onward. -/
theorem onward_of_retryAfter? {r : Resolver} (hc : r.chain.Shaped) {x y : Stage}
    (hx : x ∈ r.chain.stages) (hy : r.retryAfter? x = some y) : r.chain.Onward x y := by
  by_cases hrole : x.role = .reusableRetry
  · rw [retryAfter?, if_pos hrole, hc.bySuffix?_eq hx] at hy
    exact .again hrole (Option.some.inj hy).symm
  · obtain ⟨i, hi⟩ := List.getElem?_of_mem hx
    rw [retryAfter?, if_neg hrole, hc.indexOf?_eq hi, Option.bind_some] at hy
    -- what is found behind the stage stands at a later position
    obtain ⟨k, hk⟩ := List.getElem?_of_mem (List.mem_of_find?_eq_some hy)
    rw [List.getElem?_drop] at hk
    exact .later hrole hi hk (by omega)

section

variable {l : List Stage} {r : Resolver} (h : Chain.ofStages l = .ok r.chain) {current : Stage}
include h

/-- **A record that is retried** goes on in the chain, as long as it has attempts left. -/
theorem forwards_next (hcurrent : current ∈ r.chain.stages) {attempts : UInt32}
    {firstAttempt now : Instant} {f : Failure} {s : Stage}
    (hs : r.next current attempts firstAttempt f now = .retry s) :
    r.chain.Forwards current attempts s := by
  have hc := (Chain.ofStages_eq_ok h).2
  have hafter := retryAfter?_of_next hs
  exact ⟨mem_of_retryAfter? hafter, isRetry_of_retryAfter? hc hcurrent hafter,
    lt_budget_of_next hs, onward_of_retryAfter? hc hcurrent hafter⟩

/-- **A record that is not retried** ends with the dead letters, or is discarded for want of
them. -/
theorem ends_next {attempts : UInt32} {firstAttempt now : Instant} {f : Failure}
    (ht : (r.next current attempts firstAttempt f now).isTerminal = true) :
    r.chain.Ends (r.next current attempts firstAttempt f now) := by
  have hoffers := r.offers_next current attempts firstAttempt f now
  generalize r.next current attempts firstAttempt f now = route at ht hoffers
  cases hoffers with
  | retry _ => cases ht
  | deadLetter hs hrole =>
      obtain ⟨d, hd, hdefault⟩ := Chain.exists_deadLetter h hs hrole
      exact .deadLetter hs hrole hd hdefault
  | discard hnone =>
      refine .discard fun s hs hrole => ?_
      exact List.find?_eq_none.mp hnone s hs (decide_eq_true hrole)

end

/-! ### All steps -/

/-- The stages that a record is retried on which fails again and again, and the route by which it
is given up: it stands on a stage, and its attempt `n` is the one that fails next. -/
inductive Walks (r : Resolver) (firstAttempt : Instant) (failures : Nat → Failure)
    (clock : Nat → Instant) : Nat → Stage → List Stage → Route → Prop where
  | ends {n : Nat} {current : Stage} {last : Route}
      (h : r.next current (UInt32.ofNatClamp n) firstAttempt (failures n) (clock n) = last)
      (hlast : last.isTerminal = true) : Walks r firstAttempt failures clock n current [] last
  | goesOn {n : Nat} {current next : Stage} {path : List Stage} {last : Route}
      (h : r.next current (UInt32.ofNatClamp n) firstAttempt (failures n) (clock n) = .retry next)
      (hrest : Walks r firstAttempt failures clock (n + 1) next path last) :
      Walks r firstAttempt failures clock n current (next :: path) last

variable {l : List Stage} {r : Resolver} {firstAttempt : Instant} {failures : Nat → Failure}
  {clock : Nat → Instant} {n : Nat} {current : Stage} {path : List Stage} {last : Route}

/-- The routes of a walk, of which no more are made than there is a limit for. -/
theorem Walks.walkFrom_eq (hw : r.Walks firstAttempt failures clock n current path last)
    (limit : Nat) :
    r.walkFrom firstAttempt failures clock limit n current =
      (path.map Route.retry ++ [last]).take limit := by
  induction hw generalizing limit with
  | @ends n current last h hlast =>
      cases limit with
      | zero => rfl
      | succ limit =>
          simp only [walkFrom, h]
          cases last with
          | retry _ => cases hlast
          | deadLetter _ _ | discard _ => simp
  | goesOn h _ ih =>
      cases limit with
      | zero => rfl
      | succ limit => simp [walkFrom, h, ih]

section

variable (h : Chain.ofStages l = .ok r.chain) (hcurrent : current ∈ r.chain.stages)
include h hcurrent

/-- Every walk comes to an end. -/
theorem exists_walks (firstAttempt : Instant) (failures : Nat → Failure) (clock : Nat → Instant)
    (n : Nat) : ∃ path last, r.Walks firstAttempt failures clock n current path last := by
  -- each retry takes one of the attempts that the stages allow
  induction hk : r.chain.largestBudget - n generalizing n current with
  | zero =>
      cases hnext : r.next current (UInt32.ofNatClamp n) firstAttempt (failures n) (clock n) with
      | retry s =>
          have hlt := ofNatClamp_lt_iff.mp (forwards_next h hcurrent hnext).attempts_lt
          have hle := Chain.le_largestBudget hcurrent
          omega
      | deadLetter _ _ | discard _ => exact ⟨[], _, .ends hnext rfl⟩
  | succ k ih =>
      cases hnext : r.next current (UInt32.ofNatClamp n) firstAttempt (failures n) (clock n) with
      | retry s =>
          obtain ⟨path, last, hrest⟩ := ih (forwards_next h hcurrent hnext).mem (n + 1) (by omega)
          exact ⟨s :: path, last, .goesOn hnext hrest⟩
      | deadLetter _ _ | discard _ => exact ⟨[], _, .ends hnext rfl⟩

/-- **No walk is longer** than there are attempts left. -/
theorem Walks.length_le (hw : r.Walks firstAttempt failures clock n current path last) :
    path.length ≤ r.chain.largestBudget - n := by
  induction hw with
  | ends _ _ => exact Nat.zero_le _
  | goesOn hnext _ ih =>
      have hforwards := forwards_next h hcurrent hnext
      have hlt := ofNatClamp_lt_iff.mp hforwards.attempts_lt
      have hle := Chain.le_largestBudget hcurrent
      have := ih hforwards.mem
      rw [List.length_cons]
      omega

/-- **Every walk goes on** from each of its stages to all later ones. -/
theorem Walks.pairwise (hw : r.Walks firstAttempt failures clock n current path last) :
    (current :: path).Pairwise r.chain.Onward := by
  induction hw with
  | ends _ _ => exact List.pairwise_singleton _ _
  | goesOn hnext _ ih =>
      have hforwards := forwards_next h hcurrent hnext
      have hrest := ih hforwards.mem
      refine List.pairwise_cons.mpr ⟨List.forall_mem_cons.mpr ⟨hforwards.onward, fun s hs => ?_⟩,
        hrest⟩
      exact hforwards.onward.trans (Chain.ofStages_eq_ok h).2 (List.rel_of_pairwise_cons hrest hs)

theorem Walks.isRetry (hw : r.Walks firstAttempt failures clock n current path last) :
    ∀ s ∈ path, s ∈ r.chain.stages ∧ s.role.isRetry = true := by
  induction hw with
  | ends _ _ => simp
  | goesOn hnext _ ih =>
      have hforwards := forwards_next h hcurrent hnext
      exact List.forall_mem_cons.mpr ⟨⟨hforwards.mem, hforwards.isRetry⟩, ih hforwards.mem⟩

omit hcurrent in
theorem Walks.ends_last (hw : r.Walks firstAttempt failures clock n current path last) :
    r.chain.Ends last := by
  induction hw with
  | ends hnext hlast =>
      subst hnext
      exact ends_next h hlast
  | goesOn _ _ ih => exact ih

end

end Resolver

/-- **Progress** on every chain: each step is safe, and each walk ends. -/
theorem progress_of_ofStages {l : List Stage} {c : Chain} (h : Chain.ofStages l = .ok c)
    (classifier : Classifier) (timeout : Option Millis) {current : Stage}
    (hcurrent : current ∈ c.stages) :
    let r : Resolver := ⟨c, classifier, timeout⟩
    (∀ attempts firstAttempt f now,
      let route := r.next current attempts firstAttempt f now
      (∀ s, route = .retry s → c.Forwards current attempts s) ∧
        (route.isTerminal = true → c.Ends route)) ∧
    ∀ n firstAttempt failures clock, ∃ path last,
      (∀ limit, r.walkFrom firstAttempt failures clock limit n current =
        (path.map Route.retry ++ [last]).take limit) ∧
      (∀ s ∈ path, s ∈ c.stages ∧ s.role.isRetry = true) ∧ c.Ends last ∧
      path.length ≤ c.largestBudget - n ∧ (current :: path).Pairwise c.Onward := by
  intro r
  refine ⟨fun attempts firstAttempt f now => ⟨fun s => ?_, ?_⟩,
    fun n firstAttempt failures clock => ?_⟩
  · exact Resolver.forwards_next (r := r) h hcurrent
  · exact Resolver.ends_next (r := r) h
  · obtain ⟨path, last, hw⟩ :=
      Resolver.exists_walks (r := r) h hcurrent firstAttempt failures clock n
    exact ⟨path, last, hw.walkFrom_eq, hw.isRetry h hcurrent, hw.ends_last h,
      hw.length_le h hcurrent, hw.pairwise h hcurrent⟩

/-- A stage with a role and a number of attempts. -/
def Stage.plain (suffix : String) (role : Role) (budget : UInt32) : Stage :=
  ⟨suffix, 0, role, budget, {}, none, .empty⟩

/-- A chain with retry stages on both sides of the dead letters, two of which are entered again and
again. -/
def Chain.winding : Chain :=
  ⟨.plain "" .main 2,
    [.plain "-soon" .retry 3, .plain "-dlt" .deadLetter 1, .plain "-again" .reusableRetry 6,
      .plain "-late" .retry 9, .plain "-other" .reusableRetry 9]⟩

/-- From the main stage of that chain a record is retried once on the first retry stage and four
times on the next one, which it leaves for the dead letters though later stages allow more. -/
theorem progress_of_ofStages_winding :
    Chain.ofStages Chain.winding.stages = .ok .winding ∧
      Chain.winding.main ∈ Chain.winding.stages ∧
      ∃ path last,
        let routes := Resolver.walkFrom ⟨.winding, {}, none⟩ 0
          (fun _ => Failure.new "error" "it failed") (fun _ => 0) 9 1 Chain.winding.main
        routes = path.map Route.retry ++ [last] ∧
        routes.filterMap (·.topic? "orders") =
          ["orders-soon", "orders-again", "orders-again", "orders-again", "orders-again",
            "orders-dlt"] ∧
        Chain.winding.Ends last ∧ (Chain.winding.main :: path).Pairwise Chain.winding.Onward := by
  have h : Chain.ofStages Chain.winding.stages = .ok .winding := by decide
  have hmain : Chain.winding.main ∈ Chain.winding.stages := List.mem_cons_self
  obtain ⟨path, last, hwalk, -, hends, hlength, hpairwise⟩ :=
    (progress_of_ofStages h {} none hmain).2 1 0 (fun _ => Failure.new "error" "it failed")
      (fun _ => 0)
  have hbudget : Chain.winding.largestBudget = 9 := by decide
  have hroutes := hwalk 9
  rw [List.take_of_length_le (by simp; omega)] at hroutes
  exact ⟨h, hmain, path, last, hroutes, by decide +kernel, hends, hpairwise⟩

end Redelivery
