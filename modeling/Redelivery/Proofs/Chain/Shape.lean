import Mathlib.Data.List.Nodup
import Redelivery.Chain.Spec

/-!
# Chain — the shape of a chain

What holds of every chain that can be made (`Chain.Shaped`, `ofStages_eq_ok`): it starts with its
only main stage, and its stages are told apart by their suffixes, so that a stage is found again
under its suffix (`Shaped.indexOf?_eq`, `Shaped.bySuffix?_eq`).

A chain that was built has the main stage, the retry stages in order and the dead-letter stages
(`stages_build`, `retries_build`), and all of them allow one attempt more than there are delays
(`carried_of_mem_stages`, `toNat_budget`).  A policy that never stops yields a delay for each
attempt but the last (`length_delays`).
-/

namespace Redelivery

theorem Role.isDeadLetter_of_isRetry {r : Role} (h : r.isRetry = true) :
    r.isDeadLetter = false := by
  cases r with
  | retry | reusableRetry | retryPastTimeout => rfl
  | main | deadLetter | reroutedDeadLetter => cases h

/-- What is the only one of its kind in a list is found there. -/
theorem find?_eq_of_unique {α : Type} {l : List α} {p : α → Bool} {a : α} (ha : a ∈ l)
    (hp : p a = true) (hu : ∀ b ∈ l, p b = true → b = a) : l.find? p = some a := by
  cases h : l.find? p with
  | none => exact absurd hp (List.find?_eq_none.mp h a ha)
  | some b => rw [hu b (List.mem_of_find?_eq_some h) (List.find?_some h)]

namespace Chain

theorem firstRepeated_eq_none {l seen : List String} :
    firstRepeated seen l = none ↔ l.Nodup ∧ ∀ a ∈ l, a ∉ seen := by
  induction l generalizing seen with
  | nil => simp [firstRepeated]
  | cons a as ih =>
      unfold firstRepeated
      split
      · rename_i h
        have : a ∈ seen := by simpa using h
        simp [this]
      · rename_i h
        have ha : a ∉ seen := by simpa using h
        rw [ih, List.nodup_cons]
        constructor
        · rintro ⟨hn, hs⟩
          refine ⟨⟨fun ha' => hs a ha' (List.mem_cons_self ..), hn⟩, fun x hx => ?_⟩
          rcases List.mem_cons.mp hx with rfl | hx
          · exact ha
          · exact fun h => hs x hx (List.mem_cons_of_mem _ h)
        · rintro ⟨⟨hna, hn⟩, hs⟩
          refine ⟨hn, fun x hx hx' => ?_⟩
          rcases List.mem_cons.mp hx' with rfl | hx'
          · exact hna hx
          · exact hs x (List.mem_cons_of_mem _ hx) hx'

/-- A chain starts with its only main stage, and no two stages have the same suffix. -/
structure Shaped (c : Chain) : Prop where
  main : c.main.isMain = true
  later : ∀ s ∈ c.later, s.isMain = false
  nodup : (c.stages.map Stage.suffix).Nodup

theorem ofStages_eq_ok {l : List Stage} {c : Chain} (h : ofStages l = .ok c) :
    c.stages = l ∧ c.Shaped := by
  unfold ofStages at h
  split at h
  · cases h
  · rename_i main later
    split at h
    · cases h
    · rename_i hmain
      split at h
      · cases h
      · rename_i hrep
        dsimp only at h
        split at h
        · cases h
        · rename_i hone
          split at h
          · cases h
          · split at h
            · cases h
            · cases h
              have hm : main.isMain = true := by simpa using hmain
              refine ⟨rfl, hm, fun s hs => ?_, (firstRepeated_eq_none.mp hrep).1⟩
              have hm' : main.role = .main := by simpa [Stage.isMain] using hm
              -- the one main stage is the first
              have hcount : later.countP (·.role = .main) = 0 := by
                simp only [countRole, hm', decide_true, List.countP_cons_of_pos] at hone
                omega
              have := List.countP_eq_zero.mp hcount s hs
              simpa [Stage.isMain] using this

/-- Which stages make a chain. -/
theorem exists_ofStages_iff {main : Stage} {later : List Stage} :
    (∃ c, ofStages (main :: later) = .ok c) ↔
      main.isMain = true ∧ ((main :: later).map Stage.suffix).Nodup ∧
        countRole (main :: later) .main = 1 ∧ countRole (main :: later) .deadLetter ≤ 1 ∧
        (countRole (main :: later) .deadLetter = 0 →
          countRole (main :: later) .reroutedDeadLetter = 0) := by
  have hnodup : ((main :: later).map Stage.suffix).Nodup ↔
      firstRepeated [] ((main :: later).map Stage.suffix) = none := by
    simp [firstRepeated_eq_none]
  rw [hnodup, ofStages]
  cases hm : main.isMain with
  | false => simp
  | true =>
      cases firstRepeated [] ((main :: later).map Stage.suffix) with
      | some suffix => simp
      | none =>
          generalize countRole (main :: later) .main = mains
          generalize countRole (main :: later) .deadLetter = defaults
          generalize countRole (main :: later) .reroutedDeadLetter = rerouted
          by_cases h₁ : mains = 1
          · by_cases h₂ : 1 < defaults
            · simp [h₁, h₂, Nat.not_le.mpr h₂]
            · have hle : defaults ≤ 1 := Nat.not_lt.mp h₂
              by_cases h₃ : defaults = 0 ∧ 0 < rerouted
              · simp [h₁, h₃.1, h₃.2, Nat.ne_of_gt h₃.2]
              · have hnone : defaults = 0 → rerouted = 0 := by omega
                simpa [h₁, h₂, h₃, hle] using hnone
          · simp [h₁]

namespace Shaped

variable {c : Chain}

theorem eq_of_suffix (hc : c.Shaped) {i j : Nat} {s s' : Stage} (hi : c.stages[i]? = some s)
    (hj : c.stages[j]? = some s') (h : s.suffix = s'.suffix) : i = j := by
  have hi' : (c.stages.map Stage.suffix)[i]? = some s.suffix := by simp [hi]
  have hj' : (c.stages.map Stage.suffix)[j]? = some s.suffix := by simp [hj, h]
  have hlt := (List.getElem?_eq_some_iff.mp hi').1
  exact (List.getElem?_inj hlt hc.nodup).mp (hi'.trans hj'.symm)

/-- A stage is at the position of its suffix. -/
theorem indexOf?_eq (hc : c.Shaped) {i : Nat} {s : Stage} (hi : c.stages[i]? = some s) :
    c.indexOf? s.suffix = some i := by
  obtain ⟨hlt, hs⟩ := List.getElem?_eq_some_iff.mp hi
  refine List.findIdx?_eq_some_iff_getElem.mpr ⟨hlt, by simp [hs], fun j hj => ?_⟩
  have hj' : c.stages[j]? = some c.stages[j] := List.getElem?_eq_getElem (by omega)
  simp only [decide_eq_true_eq]
  exact fun h => absurd (hc.eq_of_suffix hj' hi h) (by omega)

theorem eq_of_mem (hc : c.Shaped) {s s' : Stage} (hs : s ∈ c.stages) (hs' : s' ∈ c.stages)
    (h : s.suffix = s'.suffix) : s = s' :=
  List.inj_on_of_nodup_map hc.nodup hs hs' h

theorem bySuffix?_eq (hc : c.Shaped) {s : Stage} (hs : s ∈ c.stages) :
    c.bySuffix? s.suffix = some s :=
  find?_eq_of_unique hs (by simp) fun s' hs' h => hc.eq_of_mem hs' hs (by simpa using h)

end Shaped

/-- The retry stages in order. -/
def retries (c : Chain) : List Stage := c.stages.filter (·.role.isRetry)

end Chain

/-! ### Delays -/

/-- The policy has a delay after every attempt. -/
def Backoff.Policy.NeverStops (p : Policy) : Prop := ∀ n, (p.bounds? n).isSome

theorem Backoff.Policy.neverStops_of_isConstant {p : Policy} (h : p.isConstant = true) :
    p.NeverStops := by
  intro n
  cases p with
  | none | fixed _ => rfl
  | exponential _ _ _ | exponentialRandom _ _ _ _ | uniformRandom _ _ | custom _ => cases h

theorem Backoff.Cursor.length_delays_le (draw : UInt32 → Nat) (n : Nat) (c : Cursor) :
    (c.delays draw n).length ≤ n := by
  induction n generalizing c with
  | zero => simp [Cursor.delays]
  | succ n ih =>
      unfold Cursor.delays
      split
      · simpa using ih _
      · simp

theorem Backoff.Cursor.length_delays (draw : UInt32 → Nat) {n : Nat} {c : Cursor}
    (hp : c.policy.NeverStops) (hn : c.asked.toNat + n ≤ c.limit.toNat) :
    (c.delays draw n).length = n := by
  induction n generalizing c with
  | zero => simp [Cursor.delays]
  | succ n ih =>
      have hlt := c.limit.toNat_lt
      have hasked : (c.asked + 1).toNat = c.asked.toNat + 1 := by
        rw [UInt32.toNat_add]
        simp
        omega
      have hle : ¬ c.limit ≤ c.asked := by
        rw [UInt32.le_iff_toNat_le]
        omega
      obtain ⟨b, hb⟩ := Option.isSome_iff_exists.mp (hp (c.asked + 1))
      simp only [Cursor.delays, Cursor.next, if_neg hle, Policy.delay?, hb, Option.map_some,
        List.length_cons]
      rw [ih (c := { c with asked := c.asked + 1 }) hp (by
        dsimp only
        omega)]

namespace ChainSpec

/-- How many attempts the policy and the given number allow: the first and one after each
delay. -/
def attempts (s : ChainSpec) (draw : UInt32 → Nat) : Nat := (s.delays draw).length + 1

theorem toNat_pred {n : UInt32} (h : n ≠ 0) : (n - 1).toNat = n.toNat - 1 := by
  have hn : n.toNat ≠ 0 := fun e => h (UInt32.toNat_inj.mp e)
  have hlt := n.toNat_lt
  rw [UInt32.toNat_sub]
  simp
  omega

theorem attempts_le {s : ChainSpec} (h : s.maxAttempts ≠ 0) (draw : UInt32 → Nat) :
    s.attempts draw ≤ s.maxAttempts.toNat := by
  have hn : s.maxAttempts.toNat ≠ 0 := fun e => h (UInt32.toNat_inj.mp e)
  have := Backoff.Cursor.length_delays_le draw (s.maxAttempts.toNat - 1)
    (s.backoff.start (s.maxAttempts - 1))
  unfold attempts delays
  omega

/-- A policy that never stops allows all attempts. -/
theorem attempts_eq {s : ChainSpec} (h : s.maxAttempts ≠ 0) (hp : s.backoff.NeverStops)
    (draw : UInt32 → Nat) : s.attempts draw = s.maxAttempts.toNat := by
  have hn : s.maxAttempts.toNat ≠ 0 := fun e => h (UInt32.toNat_inj.mp e)
  have := Backoff.Cursor.length_delays (c := s.backoff.start (s.maxAttempts - 1)) draw hp
    (n := s.maxAttempts.toNat - 1) (by simp [Backoff.Policy.start, toNat_pred h])
  unfold attempts delays
  omega

/-- The number of attempts that every stage carries. -/
theorem toNat_budget {s : ChainSpec} (h : s.maxAttempts ≠ 0) (draw : UInt32 → Nat) :
    (s.budget (s.delays draw)).toNat = s.attempts draw := by
  have hle := attempts_le h draw
  have hlt := s.maxAttempts.toNat_lt
  unfold budget
  split
  · rename_i hr
    simp only [reuses, Bool.and_eq_true] at hr
    exact (attempts_eq h (Backoff.Policy.neverStops_of_isConstant hr.1.2) draw).symm
  · have : UInt32.size = 2 ^ 32 := rfl
    unfold attempts at hle ⊢
    rw [toNat_ofNatClamp]
    omega

/-! ### Stages -/

/-- The retry stages for the given delays. -/
def retriesFor (s : ChainSpec) (delays : List Millis) : List Stage :=
  if s.reuses delays then
    [s.stage delays s.retrySuffix (delays.headD 0) .reusableRetry none]
  else s.retryStages delays 0 ((s.retrySuffixes delays).zip delays)

theorem length_valueSuffixes (suffix : String) (seen delays : List Millis) :
    (valueSuffixes suffix seen delays).length = delays.length := by
  induction delays generalizing seen with
  | nil => rfl
  | cons d ds ih => simp [valueSuffixes, ih]

theorem length_retrySuffixes (s : ChainSpec) (delays : List Millis) :
    (s.retrySuffixes delays).length = delays.length := by
  unfold retrySuffixes
  split
  · simp
  · exact length_valueSuffixes ..

theorem length_retryStages (s : ChainSpec) (delays : List Millis) (waited : Millis)
    (l : List (String × Millis)) : (s.retryStages delays waited l).length = l.length := by
  induction l generalizing waited with
  | nil => rfl
  | cons x l ih => simp [retryStages, ih]

theorem retryRole_eq (s : ChainSpec) (waited : Millis) :
    s.retryRole waited = .retry ∨ s.retryRole waited = .retryPastTimeout := by
  unfold retryRole
  split
  · split
    · exact .inr rfl
    · exact .inl rfl
  · exact .inl rfl

theorem mem_retryStages {s : ChainSpec} {delays : List Millis} {waited : Millis}
    {l : List (String × Millis)} {x : Stage} (h : x ∈ s.retryStages delays waited l) :
    x.role = .retry ∨ x.role = .retryPastTimeout := by
  induction l generalizing waited with
  | nil => cases h
  | cons y l ih =>
      rcases List.mem_cons.mp h with rfl | h
      · exact s.retryRole_eq _
      · exact ih h

theorem mem_deadLetterStages {s : ChainSpec} {delays : List Millis} {x : Stage}
    (h : x ∈ s.deadLetterStages delays) : x.role.isDeadLetter = true := by
  unfold deadLetterStages at h
  split at h
  · rcases List.mem_append.mp h with h | h
    · obtain ⟨r, -, rfl⟩ := List.mem_map.mp h
      rfl
    · obtain rfl := List.mem_singleton.mp h
      rfl
  · cases h

/-- The retry stages are made for the spec and the delays. -/
theorem carried_of_mem_retryStages {s : ChainSpec} {delays : List Millis} {waited : Millis}
    {l : List (String × Millis)} {x : Stage} (h : x ∈ s.retryStages delays waited l) :
    x.budget = s.budget delays ∧ x.creation = s.creation ∧ x.routing = s.routing := by
  induction l generalizing waited with
  | nil => cases h
  | cons y l ih =>
      rcases List.mem_cons.mp h with rfl | h
      · exact ⟨rfl, rfl, rfl⟩
      · exact ih h

/-- So are all stages. -/
theorem carried_of_mem_stages {s : ChainSpec} {delays : List Millis} {x : Stage}
    (h : x ∈ s.stages delays) :
    x.budget = s.budget delays ∧ x.creation = s.creation ∧ x.routing = s.routing := by
  rcases List.mem_cons.mp h with rfl | h
  · exact ⟨rfl, rfl, rfl⟩
  · rcases List.mem_append.mp h with h | h
    · split at h
      · obtain rfl := List.mem_singleton.mp h
        exact ⟨rfl, rfl, rfl⟩
      · exact carried_of_mem_retryStages h
    · unfold deadLetterStages at h
      split at h
      · rcases List.mem_append.mp h with h | h
        · obtain ⟨rule, -, rfl⟩ := List.mem_map.mp h
          exact ⟨rfl, rfl, rfl⟩
        · obtain rfl := List.mem_singleton.mp h
          exact ⟨rfl, rfl, rfl⟩
      · cases h

/-- A chain that was built: the main stage, the retry stages, the dead-letter stages. -/
theorem build_eq_ok {s : ChainSpec} {draw : UInt32 → Nat} {c : Chain} (h : s.build draw = .ok c) :
    s.maxAttempts ≠ 0 ∧ c.Shaped ∧
      c.main = s.stage (s.delays draw) "" 0 .main none ∧
      c.later = s.retriesFor (s.delays draw) ++ s.deadLetterStages (s.delays draw) := by
  unfold build at h
  split at h
  · cases h
  · rename_i hmax
    split at h
    · cases h
    · split at h
      · cases h
      · obtain ⟨hl, hc⟩ := Chain.ofStages_eq_ok h
        obtain ⟨hmain, hlater⟩ := List.cons.inj hl
        exact ⟨hmax, hc, hmain, hlater⟩

theorem isRetry_of_mem_retriesFor {s : ChainSpec} {delays : List Millis} {x : Stage}
    (h : x ∈ s.retriesFor delays) : x.role.isRetry = true := by
  unfold retriesFor at h
  split at h
  · obtain rfl := List.mem_singleton.mp h
    rfl
  · rcases mem_retryStages h with h | h <;> rw [h] <;> rfl

theorem retries_build {s : ChainSpec} {draw : UInt32 → Nat} {c : Chain}
    (h : s.build draw = .ok c) : c.retries = s.retriesFor (s.delays draw) := by
  obtain ⟨-, -, hmain, hlater⟩ := build_eq_ok h
  have hdead : ∀ x ∈ s.deadLetterStages (s.delays draw), ¬ x.role.isRetry = true := by
    intro x hx hretry
    have hdead := mem_deadLetterStages hx
    rw [Role.isDeadLetter_of_isRetry hretry] at hdead
    cases hdead
  rw [Chain.retries, Chain.stages, hmain, hlater,
    List.filter_cons_of_neg (by simp [stage, Role.isRetry]), List.filter_append,
    List.filter_eq_nil_iff.mpr hdead, List.append_nil,
    List.filter_eq_self.mpr fun x hx => isRetry_of_mem_retriesFor hx]

theorem stages_of_build {s : ChainSpec} {draw : UInt32 → Nat} {c : Chain}
    (h : s.build draw = .ok c) : c.stages = s.stages (s.delays draw) := by
  obtain ⟨-, -, hmain, hlater⟩ := build_eq_ok h
  rw [Chain.stages, hmain, hlater]
  rfl

/-- The retry stages stand between the main stage and the dead-letter stages. -/
theorem stages_build {s : ChainSpec} {draw : UInt32 → Nat} {c : Chain}
    (h : s.build draw = .ok c) :
    c.stages = c.main :: (c.retries ++ s.deadLetterStages (s.delays draw)) := by
  rw [Chain.stages, (build_eq_ok h).2.2.2, retries_build h]

/-- A shared retry stage is the only one; else there is one for each delay. -/
theorem length_retriesFor (s : ChainSpec) (delays : List Millis) :
    (s.retriesFor delays).length = if s.reuses delays then 1 else delays.length := by
  unfold retriesFor
  split
  · rfl
  · rw [length_retryStages, List.length_zip, length_retrySuffixes, Nat.min_self]

end ChainSpec

/-! ### A short chain -/

/-- A second attempt after a second, and no dead letters. -/
def ChainSpec.once : ChainSpec := { maxAttempts := 2, keepsDeadLetters := false }

/-- The chain for one retry. -/
def Chain.once : Chain :=
  ⟨ChainSpec.once.stage [1000] "" 0 .main none,
    [ChainSpec.once.stage [1000] "-retry-0" 1000 .retry none]⟩

end Redelivery
