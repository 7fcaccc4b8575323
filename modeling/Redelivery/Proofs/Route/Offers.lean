import Redelivery.Route

/-!
# Route — the routes that lead away from a stage

A record that failed is retried on the next retry stage, or it goes to a dead-letter stage of the
chain, or it is discarded, which only happens in a chain without a dead-letter stage
(`Resolver.Offers`, `offers_next`).  A record that is given up is not retried
(`reason?_deadLetterFor`).
-/

namespace Redelivery

/-- Why a record is given up. -/
def Route.reason? : Route → Option TerminalReason
  | .retry _ => none
  | .deadLetter _ reason | .discard reason => some reason

/-- The stage that a route leads to. -/
def Route.stage? : Route → Option Stage
  | .retry s | .deadLetter s _ => some s
  | .discard _ => none

/-- The topic that a route leads to from a main topic. -/
def Route.topic? (route : Route) (main : String) : Option String :=
  route.stage?.map (·.topicFor main)

namespace Resolver

/-- The routes that lead away from a stage. -/
inductive Offers (r : Resolver) (current : Stage) : Route → Prop where
  | retry {s : Stage} (h : r.retryAfter? current = some s) : Offers r current (.retry s)
  | deadLetter {s : Stage} {reason : TerminalReason} (hs : s ∈ r.chain.stages)
      (hd : s.role.isDeadLetter = true) : Offers r current (.deadLetter s reason)
  | discard {reason : TerminalReason} (h : r.chain.deadLetter? = none) :
      Offers r current (.discard reason)

variable {r : Resolver} {current : Stage}

theorem reason?_toDeadLetters (r : Resolver) (reason : TerminalReason) :
    (r.toDeadLetters reason).reason? = some reason := by
  unfold toDeadLetters
  split <;> rfl

theorem reason?_deadLetterFor (r : Resolver) (f : Failure) (reason : TerminalReason) :
    (r.deadLetterFor f reason).reason? = some reason := by
  unfold deadLetterFor
  dsimp only
  split
  · rfl
  · exact r.reason?_toDeadLetters reason

theorem deadLetterFor_ne_retry (r : Resolver) (f : Failure) (reason : TerminalReason)
    (s : Stage) : r.deadLetterFor f reason ≠ .retry s := by
  intro h
  have := r.reason?_deadLetterFor f reason
  rw [h] at this
  cases this

theorem offers_toDeadLetters (r : Resolver) (current : Stage) (reason : TerminalReason) :
    r.Offers current (r.toDeadLetters reason) := by
  unfold toDeadLetters
  split
  · rename_i s h
    have hrole : s.role = .deadLetter := by simpa using List.find?_some h
    exact .deadLetter (List.mem_of_find?_eq_some h) (by rw [hrole]; rfl)
  · rename_i h
    exact .discard h

theorem offers_deadLetterFor (r : Resolver) (current : Stage) (f : Failure)
    (reason : TerminalReason) : r.Offers current (r.deadLetterFor f reason) := by
  unfold deadLetterFor
  dsimp only
  split
  · rename_i s h
    obtain ⟨suffix, -, h⟩ := Option.bind_eq_some_iff.mp h
    have hrole : s.role = .reroutedDeadLetter := by
      have := List.find?_some h
      simp only [decide_eq_true_eq] at this
      exact this.1
    exact .deadLetter (List.mem_of_find?_eq_some h) (by rw [hrole]; rfl)
  · exact r.offers_toDeadLetters current reason

/-- **Where a record goes** is a route that leads away from its stage. -/
theorem offers_next (r : Resolver) (current : Stage) (attempts : UInt32)
    (firstAttempt : Instant) (f : Failure) (now : Instant) :
    r.Offers current (r.next current attempts firstAttempt f now) := by
  unfold Resolver.next
  split
  · exact r.offers_toDeadLetters current _
  · split
    · exact r.offers_deadLetterFor current f _
    · split
      · exact r.offers_deadLetterFor current f _
      · split
        · rename_i s h
          split at h
          · exact .retry h
          · cases h
        · exact r.offers_deadLetterFor current f _

/-- A record is retried on the retry stage after its own. -/
theorem retryAfter?_of_next {s : Stage} {attempts : UInt32} {firstAttempt now : Instant}
    {f : Failure} (h : r.next current attempts firstAttempt f now = .retry s) :
    r.retryAfter? current = some s := by
  have hoffers := r.offers_next current attempts firstAttempt f now
  rw [h] at hoffers
  cases hoffers with
  | retry h => exact h

/-- It was not attempted as often as possible. -/
theorem lt_budget_of_next {s : Stage} {attempts : UInt32} {firstAttempt now : Instant}
    {f : Failure} (h : r.next current attempts firstAttempt f now = .retry s) :
    attempts < current.budget := by
  refine Decidable.byContradiction fun hcount => ?_
  rw [next, if_neg hcount] at h
  -- without attempts left every branch gives the record up
  split at h
  · have := r.reason?_toDeadLetters .timeoutExpired
    rw [h] at this
    cases this
  · split at h
    · exact deadLetterFor_ne_retry _ _ _ _ h
    · split at h
      · exact deadLetterFor_ne_retry _ _ _ _ h
      · exact deadLetterFor_ne_retry _ _ _ _ h

/-- So it can be attempted once more, and that is counted. -/
theorem toNat_nextCount_of_next {s : Stage} {n : UInt32} {firstAttempt now : Instant}
    {f : Failure} (h : r.next current (nextCount n) firstAttempt f now = .retry s) :
    (nextCount n).toNat = n.toNat + 1 := by
  have hlt := UInt32.lt_iff_toNat_lt.mp (lt_budget_of_next h)
  have hbudget := current.budget.toNat_lt
  rw [toNat_nextCount] at hlt ⊢
  have : UInt32.size = 2 ^ 32 := rfl
  omega

/-- Without a time limit it does not matter when a record failed. -/
theorem next_eq_of_timeout (h : r.timeout = none) (attempts : UInt32)
    (firstAttempt firstAttempt' now now' : Instant) (f : Failure) :
    r.next current attempts firstAttempt f now = r.next current attempts firstAttempt' f now' := by
  simp only [next, isTimedOut, h]

theorem mem_of_retryAfter? {s : Stage} (h : r.retryAfter? current = some s) :
    s ∈ r.chain.stages := by
  unfold retryAfter? at h
  split at h
  · exact List.mem_of_find?_eq_some h
  · obtain ⟨i, -, h⟩ := Option.bind_eq_some_iff.mp h
    exact List.mem_of_mem_drop (List.mem_of_find?_eq_some h)

theorem Offers.mem {route : Route} {s : Stage} (h : r.Offers current route)
    (hs : route.stage? = some s) : s ∈ r.chain.stages := by
  cases h with
  | retry h =>
      cases hs
      exact mem_of_retryAfter? h
  | deadLetter h _ =>
      cases hs
      exact h
  | discard _ => cases hs

end Resolver

end Redelivery
