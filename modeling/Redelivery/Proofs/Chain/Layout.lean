import Mathlib.Algebra.GroupWithZero.Nat
import Mathlib.Tactic.SplitIfs
import Redelivery.Proofs.Chain.Shape

/-!
# Chain — the layout of a chain

The delays of a chain are those that its policy yields, one after each attempt that is followed by
another, until the policy stops (`Backoff.Policy.Yields`).  They settle the suffixes of the stages
(`ChainSpec.suffixes`), and the chain is refused just if two of these are equal, or if one of three
values that it is built from is out of range.

**The layout** (`layout_build`).  A chain that is not refused has its main stage first, then the
retry stages, then the dead-letter stages (`ChainSpec.Layout`).  There is one retry stage for each
delay, or one for all of them if they share it (`ChainSpec.Shares`).  All stages allow one attempt
more than there are delays, and no count of attempts is too large for that (`toNat_budget`).

**Marks** (`marked_iff`).  A retry stage is marked as reached too late if the delays up to it exceed
the time limit.  Their sum is taken of words and stops at the last one, but compares to the limit as
the sum of the numbers does, unless the limit is the last word itself.  Once it exceeds the limit it
does so for good, and so the marked stages are the last ones (`exists_marked_tail`).
-/

namespace Redelivery

/-! ### Delays -/

namespace Backoff

/-- The delay after attempt `n`, unless the policy stops. -/
def Policy.delayAfter? (p : Policy) (draw : UInt32 → Nat) (n : Nat) : Option Millis :=
  p.delay? (UInt32.ofNat n) (draw (UInt32.ofNat n))

/-- The delays that a policy yields from attempt `n` on, of which at most `limit` are asked for. -/
inductive Policy.Yields (p : Policy) (draw : UInt32 → Nat) : Nat → Nat → List Millis → Prop where
  | enough {n : Nat} : Yields p draw n 0 []
  | stops {n limit : Nat} (h : p.delayAfter? draw n = .none) : Yields p draw n (limit + 1) []
  | next {n limit : Nat} {d : Millis} {ds : List Millis} (h : p.delayAfter? draw n = some d)
      (hrest : Yields p draw (n + 1) limit ds) : Yields p draw n (limit + 1) (d :: ds)

theorem Policy.Yields.unique {p : Policy} {draw : UInt32 → Nat} {n limit : Nat}
    {ds ds' : List Millis} (h : p.Yields draw n limit ds) (h' : p.Yields draw n limit ds') :
    ds = ds' := by
  induction h generalizing ds' with
  | enough =>
      cases h'
      rfl
  | stops h =>
      cases h' with
      | stops => rfl
      | next h' => simp [h] at h'
  | next h _ ih =>
      cases h' with
      | stops h' => simp [h] at h'
      | next h' hrest =>
          rw [h] at h'
          cases h'
          rw [ih hrest]

/-- A walk that is not at its limit asks for the delay after one more attempt. -/
theorem Cursor.next_of_lt {c : Cursor} (h : c.asked.toNat < c.limit.toNat)
    (draw : UInt32 → Nat) :
    c.next draw =
        (c.policy.delayAfter? draw (c.asked.toNat + 1), { c with asked := c.asked + 1 }) ∧
      (c.asked + 1).toNat = c.asked.toNat + 1 := by
  have hlt := c.limit.toNat_lt
  have hasked : UInt32.ofNat (c.asked.toNat + 1) = c.asked + 1 := by
    simp [UInt32.ofNat_add]
  constructor
  · have hle : ¬ c.limit ≤ c.asked := by
      rw [UInt32.le_iff_toNat_le]
      omega
    rw [next, if_neg hle, Policy.delayAfter?, hasked]
  · rw [UInt32.toNat_add]
    simp
    omega

/-- A walk along a policy yields its delays. -/
theorem Cursor.yields_delays (draw : UInt32 → Nat) {n : Nat} {c : Cursor}
    (hn : c.asked.toNat + n ≤ c.limit.toNat) :
    c.policy.Yields draw (c.asked.toNat + 1) n (c.delays draw n) := by
  induction n generalizing c with
  | zero => exact .enough
  | succ n ih =>
      obtain ⟨hnext, hasked⟩ := c.next_of_lt (by omega) draw
      rw [delays, hnext]
      cases hd : c.policy.delayAfter? draw (c.asked.toNat + 1) with
      | none => exact .stops hd
      | some d =>
          refine .next hd ?_
          have := ih (c := { c with asked := c.asked + 1 }) (by dsimp only; omega)
          rwa [← hasked]

/-- All delays of a constant policy are the same. -/
theorem Policy.exists_delay?_of_isConstant {p : Policy} (h : p.isConstant = true) :
    ∃ d, ∀ n draw, p.delay? n draw = some d := by
  have hpick : ∀ (d : Millis) draw, pick draw d d = d := fun d draw => by simp [pick, Nat.mod_one]
  cases p with
  | none => exact ⟨0, fun _ draw => congrArg some (hpick 0 draw)⟩
  | fixed d => exact ⟨d, fun _ draw => congrArg some (hpick d draw)⟩
  | exponential _ _ _ | exponentialRandom _ _ _ _ | uniformRandom _ _ | custom _ => cases h

theorem Policy.Yields.eq_of_mem {p : Policy} {draw : UInt32 → Nat} {d : Millis}
    (hp : ∀ n draw, p.delay? n draw = some d) {n limit : Nat} {ds : List Millis}
    (h : p.Yields draw n limit ds) : ∀ d' ∈ ds, d' = d := by
  induction h with
  | enough | stops _ => simp
  | next h _ ih =>
      have he := h.symm.trans (hp _ _)
      cases he
      simpa using ih

end Backoff

/-- The dead-letter stages in order. -/
def Chain.deadLetters (c : Chain) : List Stage := c.stages.filter (·.role.isDeadLetter)

namespace ChainSpec

variable {s : ChainSpec} {draw : UInt32 → Nat} {c : Chain} {delays : List Millis}

/-- The retries share a stage: this is wanted, and there are several that wait equally long. -/
def Shares (s : ChainSpec) (delays : List Millis) : Prop :=
  s.reuseTopic = true ∧ s.backoff.isConstant = true ∧ 2 ≤ delays.length

instance : Decidable (s.Shares delays) := inferInstanceAs (Decidable (_ ∧ _ ∧ _))

theorem reuses_iff : s.reuses delays = true ↔ s.Shares delays := by
  simp [reuses, Shares, and_assoc, Nat.succ_le_iff]

/-! ### Suffixes -/

/-- The suffix of a retry stage that is told apart by its delay, which occurred so often before. -/
def valueSuffix (s : ChainSpec) (d : Millis) (before : Nat) : String :=
  let stem := s.retrySuffix ++ "-" ++ toString d.toNat
  if before = 0 then stem else stem ++ "-" ++ toString before

/-- The suffix of the retry stage for the delay at a position, if each retry has its own. -/
def suffixAt (s : ChainSpec) (delays : List Millis) (k : Nat) (d : Millis) : String :=
  match s.suffixing with
  | .index => s.retrySuffix ++ "-" ++ toString k
  | .delayValue => s.valueSuffix d ((delays.take k).count d)

/-- The suffixes of the stages, in order. -/
def suffixes (s : ChainSpec) (delays : List Millis) : List String :=
  "" ::
    ((if s.Shares delays then [s.retrySuffix] else delays.mapIdx (s.suffixAt delays)) ++
      if s.keepsDeadLetters then
        s.routing.rules.map (·.suffix ++ s.deadLetterSuffix) ++ [s.deadLetterSuffix]
      else [])

theorem getElem?_valueSuffixes (s : ChainSpec) (seen delays : List Millis) (k : Nat) :
    (valueSuffixes s.retrySuffix seen delays)[k]? =
      delays[k]?.map fun d => s.valueSuffix d ((delays.take k).count d + seen.count d) := by
  induction delays generalizing seen k with
  | nil => rfl
  | cons d ds ih =>
      cases k with
      | zero =>
          simp only [valueSuffixes, List.getElem?_cons_zero, Option.map_some, List.take_zero,
            List.count_nil, Nat.zero_add, valueSuffix]
          cases seen.count d <;> simp
      | succ k =>
          simp only [valueSuffixes, List.getElem?_cons_succ, ih, List.take_succ_cons,
            List.count_cons]
          refine congrArg (Option.map · _) (funext fun d' => ?_)
          rw [Nat.add_right_comm, Nat.add_assoc]

theorem retrySuffixes_eq (s : ChainSpec) (delays : List Millis) :
    s.retrySuffixes delays = delays.mapIdx (s.suffixAt delays) := by
  refine List.ext_getElem? fun k => ?_
  rw [List.getElem?_mapIdx, retrySuffixes]
  unfold suffixAt
  cases s.suffixing with
  | index =>
      by_cases hk : k < delays.length
      · simp [hk]
      · simp [hk]
  | delayValue => simp [getElem?_valueSuffixes]

theorem suffix_retryStages (s : ChainSpec) (delays : List Millis) (waited : Millis)
    (l : List (String × Millis)) :
    (s.retryStages delays waited l).map Stage.suffix = l.map Prod.fst := by
  induction l generalizing waited with
  | nil => rfl
  | cons x l ih =>
      rw [retryStages, List.map_cons, ih]
      rfl

theorem suffix_stages (s : ChainSpec) (delays : List Millis) :
    (s.stages delays).map Stage.suffix = s.suffixes delays := by
  have hretries : (s.retriesFor delays).map Stage.suffix =
      if s.Shares delays then [s.retrySuffix] else delays.mapIdx (s.suffixAt delays) := by
    unfold retriesFor
    simp only [reuses_iff]
    split
    · rfl
    · rw [suffix_retryStages, List.map_fst_zip (Nat.le_of_eq (s.length_retrySuffixes delays)),
        retrySuffixes_eq]
  have hletters : (s.deadLetterStages delays).map Stage.suffix =
      if s.keepsDeadLetters then
        s.routing.rules.map (·.suffix ++ s.deadLetterSuffix) ++ [s.deadLetterSuffix]
      else [] := by
    unfold deadLetterStages
    split
    · simp [stage]
    · rfl
  rw [suffixes, ← hretries, ← hletters, ← List.map_append]
  rfl

/-! ### Refusal -/

theorem build_isOk_iff : (∃ c, s.build draw = .ok c) ↔
    s.maxAttempts ≠ 0 ∧ ¬ s.creation.partitions < 1 ∧ s.deadLetterSuffix ≠ "" ∧
      ∃ c, Chain.ofStages (s.stages (s.delays draw)) = .ok c := by
  unfold build
  split_ifs with h₁ h₂ h₃
  · simp [h₁]
  · simp [h₂]
  · simp [h₃]
  · simp [h₁, h₂, h₃]

/-- Only the main stage and the dead-letter stages are no retries. -/
theorem countRole_stages (s : ChainSpec) (delays : List Millis) {role : Role}
    (hrole : role.isRetry = false) :
    Chain.countRole (s.stages delays) role =
      Chain.countRole (s.deadLetterStages delays) role + if role = .main then 1 else 0 := by
  have hretries : (s.retriesFor delays).countP (·.role = role) = 0 :=
    List.countP_eq_zero.mpr fun x hx h => by
      have hretry := isRetry_of_mem_retriesFor hx
      rw [of_decide_eq_true h, hrole] at hretry
      cases hretry
  change Chain.countRole (_ :: (s.retriesFor delays ++ s.deadLetterStages delays)) role = _
  simp only [Chain.countRole, List.countP_cons, List.countP_append, hretries, stage, Nat.zero_add,
    decide_eq_true_eq, eq_comm (a := Role.main)]

theorem countRole_deadLetterStages (s : ChainSpec) (delays : List Millis) :
    Chain.countRole (s.deadLetterStages delays) .main = 0 ∧
      Chain.countRole (s.deadLetterStages delays) .deadLetter =
        (if s.keepsDeadLetters then 1 else 0) ∧
      Chain.countRole (s.deadLetterStages delays) .reroutedDeadLetter =
        if s.keepsDeadLetters then s.routing.rules.length else 0 := by
  unfold deadLetterStages Chain.countRole
  split
  · simp [List.countP_map, Function.comp_def, stage]
  · simp

/-- The stages make a chain just if their suffixes differ. -/
theorem exists_ofStages_stages_iff :
    (∃ c, Chain.ofStages (s.stages delays) = .ok c) ↔ (s.suffixes delays).Nodup := by
  obtain ⟨hmain, hdefault, hrerouted⟩ := s.countRole_deadLetterStages delays
  have hstages : s.stages delays = s.stage delays "" 0 .main none ::
      (s.retriesFor delays ++ s.deadLetterStages delays) := rfl
  rw [hstages, Chain.exists_ofStages_iff, ← hstages, suffix_stages,
    s.countRole_stages delays rfl, s.countRole_stages delays rfl, s.countRole_stages delays rfl,
    hmain, hdefault, hrerouted]
  have hfirst : (s.stage delays "" 0 .main none).isMain = true := rfl
  cases s.keepsDeadLetters <;> simp [hfirst]

/-- **A chain is refused** if a value is out of range or two suffixes are equal. -/
theorem exists_build_eq_error_iff : (∃ e, s.build draw = .error e) ↔
    s.maxAttempts = 0 ∨ s.creation.partitions < 1 ∨ s.deadLetterSuffix = "" ∨
      ¬ (s.suffixes (s.delays draw)).Nodup := by
  have hok : (∃ e, s.build draw = .error e) ↔ ¬ ∃ c, s.build draw = .ok c := by
    cases s.build draw <;> simp
  rw [hok, build_isOk_iff, exists_ofStages_stages_iff]
  simp only [not_and_or, not_not]

/-! ### Marks -/

/-- A sum of words is the sum of the numbers, or the last word. -/
theorem toNat_foldl_add (waited : Millis) (l : List Millis) :
    (l.foldl Millis.add waited).toNat =
      min (waited.toNat + (l.map UInt64.toNat).sum) (UInt64.size - 1) := by
  induction l generalizing waited with
  | nil =>
      have := waited.toNat_lt_size
      simp only [List.foldl_nil, List.map_nil, List.sum_nil]
      omega
  | cons d l ih =>
      rw [List.foldl_cons, ih, Millis.toNat_add, List.map_cons, List.sum_cons]
      omega

theorem retryRole_eq_retryPastTimeout_iff {waited : Millis} :
    s.retryRole waited = .retryPastTimeout ↔ ∃ t, s.timeout = some t ∧ t < waited := by
  unfold retryRole
  cases s.timeout with
  | none => simp
  | some t => by_cases h : t < waited <;> simp [h]

/-- What is late stays late. -/
theorem retryRole_add {waited : Millis} (h : s.retryRole waited = .retryPastTimeout) (d : Millis) :
    s.retryRole (waited.add d) = .retryPastTimeout := by
  obtain ⟨t, ht, hlt⟩ := retryRole_eq_retryPastTimeout_iff.mp h
  refine retryRole_eq_retryPastTimeout_iff.mpr ⟨t, ht, ?_⟩
  have hlast := waited.toNat_lt_size
  rw [UInt64.lt_iff_toNat_lt] at hlt ⊢
  rw [Millis.toNat_add]
  omega

/-- A retry stage has its delay, and its role follows from the delays up to it. -/
theorem getElem?_retryStages {s : ChainSpec} {delays : List Millis} {waited : Millis}
    {l : List (String × Millis)} {k : Nat} {x : Stage}
    (h : (s.retryStages delays waited l)[k]? = some x) :
    (l.map Prod.snd)[k]? = some x.delay ∧
      x.role = s.retryRole (((l.map Prod.snd).take (k + 1)).foldl Millis.add waited) := by
  induction l generalizing waited k with
  | nil => cases h
  | cons y l ih =>
      cases k with
      | zero =>
          cases h
          exact ⟨rfl, rfl⟩
      | succ k => exact ih h

/-- The `k`th retry stage of a chain in which each retry has its own. -/
theorem getElem?_retries (h : s.build draw = .ok c) (hr : ¬ s.reuses (s.delays draw) = true)
    {k : Nat} {x : Stage} (hx : c.retries[k]? = some x) :
    (s.delays draw)[k]? = some x.delay ∧
      x.role = s.retryRole (((s.delays draw).take (k + 1)).foldl Millis.add 0) := by
  rw [retries_build h, retriesFor, if_neg hr] at hx
  have := getElem?_retryStages hx
  rwa [List.map_snd_zip (Nat.le_of_eq (s.length_retrySuffixes _).symm)] at this

/-- **A marked stage** comes after more delays than the limit allows. -/
theorem marked_iff (h : s.build draw = .ok c) (hr : ¬ s.reuses (s.delays draw) = true) {k : Nat}
    {x : Stage} (hx : c.retries[k]? = some x) :
    x.role = .retryPastTimeout ↔ ∃ t, s.timeout = some t ∧ t.toNat < UInt64.size - 1 ∧
      t.toNat < (((s.delays draw).take (k + 1)).map UInt64.toNat).sum := by
  rw [(getElem?_retries h hr hx).2, retryRole_eq_retryPastTimeout_iff]
  refine exists_congr fun t => and_congr_right fun _ => ?_
  rw [UInt64.lt_iff_toNat_lt, toNat_foldl_add, UInt64.toNat_zero, Nat.zero_add]
  omega

theorem role_of_mem_retryStages {delays : List Millis} {waited : Millis}
    {l : List (String × Millis)} (hlate : s.retryRole waited = .retryPastTimeout) :
    ∀ x ∈ s.retryStages delays waited l, x.role = .retryPastTimeout := by
  induction l generalizing waited with
  | nil => simp [retryStages]
  | cons y l ih =>
      have hnext := retryRole_add hlate y.2
      exact List.forall_mem_cons.mpr ⟨hnext, ih hnext⟩

/-- The marked stages are the last ones. -/
theorem exists_marked_tail (s : ChainSpec) (delays : List Millis) (waited : Millis)
    (l : List (String × Millis)) :
    ∃ before after, s.retryStages delays waited l = before ++ after ∧
      (∀ x ∈ before, x.role ≠ .retryPastTimeout) ∧ ∀ x ∈ after, x.role = .retryPastTimeout := by
  induction l generalizing waited with
  | nil => exact ⟨[], [], rfl, by simp, by simp⟩
  | cons y l ih =>
      by_cases hlate : s.retryRole (waited.add y.2) = .retryPastTimeout
      · refine ⟨[], _, rfl, by simp, ?_⟩
        exact List.forall_mem_cons.mpr ⟨hlate, role_of_mem_retryStages hlate⟩
      · obtain ⟨before, after, hsplit, hbefore, hafter⟩ := ih (waited.add y.2)
        refine ⟨s.stage delays y.1 y.2 (s.retryRole (waited.add y.2)) none :: before, after, ?_,
          List.forall_mem_cons.mpr ⟨hlate, hbefore⟩, hafter⟩
        rw [retryStages, hsplit]
        rfl

/-! ### The whole chain -/

/-- A chain for the delays that its policy yields. -/
structure Layout (s : ChainSpec) (delays : List Millis) (c : Chain) : Prop where
  stages : c.stages = c.main :: (c.retries ++ c.deadLetters)
  suffixes : c.stages.map Stage.suffix = s.suffixes delays
  budget : ∀ x ∈ c.stages, x.budget.toNat = 1 + delays.length
  carried : ∀ x ∈ c.stages, x.creation = s.creation ∧ x.routing = s.routing
  main : c.main.role = .main ∧ c.main.suffix = "" ∧ c.main.delay = 0
  shared : s.Shares delays →
    ∃ x, c.retries = [x] ∧ x.role = .reusableRetry ∧ ∀ d ∈ delays, d = x.delay
  separate : ¬ s.Shares delays → c.retries.map Stage.delay = delays ∧
    ∀ x ∈ c.retries, x.role = .retry ∨ x.role = .retryPastTimeout
  marked : ¬ s.Shares delays → ∀ (k : Nat) (x : Stage), c.retries[k]? = some x →
    (x.role = .retryPastTimeout ↔ ∃ t, s.timeout = some t ∧ t.toNat < UInt64.size - 1 ∧
      t.toNat < ((delays.take (k + 1)).map UInt64.toNat).sum)
  tail : ∃ before after, c.retries = before ++ after ∧
    (∀ x ∈ before, x.role ≠ .retryPastTimeout) ∧ ∀ x ∈ after, x.role = .retryPastTimeout
  deadLetters : c.deadLetters.map (fun x => (x.role, x.routingSuffix, x.delay)) =
    if s.keepsDeadLetters then
      s.routing.rules.map (fun rule => (.reroutedDeadLetter, some rule.suffix, 0)) ++
        [(.deadLetter, none, 0)]
    else []

/-- The delays of a chain are those that its policy yields. -/
theorem yields_delays (s : ChainSpec) (draw : UInt32 → Nat) :
    s.backoff.Yields draw 1 (s.maxAttempts.toNat - 1) (s.delays draw) := by
  refine Backoff.Cursor.yields_delays (c := s.backoff.start (s.maxAttempts - 1)) draw ?_
  change 0 + _ ≤ (s.maxAttempts - 1).toNat
  by_cases h : s.maxAttempts = 0
  · simp [h]
  · rw [toNat_pred h]
    omega

/-- Delays that share a stage are all as long as the first. -/
theorem eq_headD_of_shares (hs : s.Shares (s.delays draw)) :
    ∀ d ∈ s.delays draw, d = (s.delays draw).headD 0 := by
  obtain ⟨d, hd⟩ := Backoff.Policy.exists_delay?_of_isConstant hs.2.1
  have hall := (s.yields_delays draw).eq_of_mem hd
  intro d' hd'
  cases hds : s.delays draw with
  | nil => simp [hds] at hd'
  | cons d₀ ds => exact (hall d' hd').trans (hall d₀ (by simp [hds])).symm

section

variable (h : s.build draw = .ok c)
include h

theorem deadLetters_build : c.deadLetters = s.deadLetterStages (s.delays draw) := by
  obtain ⟨-, -, hmain, hlater⟩ := build_eq_ok h
  have hretry : ∀ x ∈ s.retriesFor (s.delays draw), ¬ x.role.isDeadLetter = true := fun x hx => by
    simp [Role.isDeadLetter_of_isRetry (isRetry_of_mem_retriesFor hx)]
  rw [Chain.deadLetters, Chain.stages, hmain, hlater,
    List.filter_cons_of_neg (by simp [stage, Role.isDeadLetter]), List.filter_append,
    List.filter_eq_nil_iff.mpr hretry, List.nil_append,
    List.filter_eq_self.mpr fun x hx => mem_deadLetterStages hx]

/-- Retries that share no stage have one for each delay. -/
theorem delay_retries (hr : ¬ s.reuses (s.delays draw) = true) :
    c.retries.map Stage.delay = s.delays draw := by
  have hlen := s.length_retriesFor (s.delays draw)
  rw [if_neg hr, ← retries_build h] at hlen
  refine List.ext_getElem? fun k => ?_
  rw [List.getElem?_map]
  cases hk : c.retries[k]? with
  | some x => rw [(getElem?_retries h hr hk).1, Option.map_some]
  | none =>
      rw [List.getElem?_eq_none_iff, hlen] at hk
      rw [List.getElem?_eq_none hk, Option.map_none]

/-- **The layout** of a chain that was built. -/
theorem layout_of_build : s.Layout (s.delays draw) c where
  stages := by
    rw [deadLetters_build h, stages_build h]
  suffixes := by rw [stages_of_build h, suffix_stages]
  budget x hx := by
    rw [stages_of_build h] at hx
    rw [(carried_of_mem_stages hx).1, toNat_budget (build_eq_ok h).1, attempts, Nat.add_comm]
  carried x hx := by
    rw [stages_of_build h] at hx
    exact (carried_of_mem_stages hx).2
  main := by
    rw [(build_eq_ok h).2.2.1]
    exact ⟨rfl, rfl, rfl⟩
  shared hs := by
    rw [retries_build h, retriesFor, if_pos (reuses_iff.mpr hs)]
    exact ⟨_, rfl, rfl, eq_headD_of_shares hs⟩
  separate hs := by
    have hr := mt reuses_iff.mp hs
    refine ⟨delay_retries h hr, fun x hx => ?_⟩
    rw [retries_build h, retriesFor, if_neg hr] at hx
    exact mem_retryStages hx
  marked hs _ _ hx := marked_iff h (mt reuses_iff.mp hs) hx
  tail := by
    rw [retries_build h, retriesFor]
    split
    · exact ⟨[_], [], rfl, by simp [stage], by simp⟩
    · exact s.exists_marked_tail _ _ _
  deadLetters := by
    rw [deadLetters_build h, deadLetterStages]
    split
    · simp [stage]
    · rfl

end

end ChainSpec

/-- **Building** succeeds but for values out of range and for suffixes that are equal, and makes a
chain with the delays that the policy yields. -/
theorem layout_build (s : ChainSpec) (draw : UInt32 → Nat) :
    ∃ delays, (∀ ds, s.backoff.Yields draw 1 (s.maxAttempts.toNat - 1) ds ↔ ds = delays) ∧
      ((∃ e, s.build draw = .error e) ↔
        s.maxAttempts = 0 ∨ s.creation.partitions < 1 ∨ s.deadLetterSuffix = "" ∨
          ¬ (s.suffixes delays).Nodup) ∧
      ∀ c, s.build draw = .ok c → s.Layout delays c := by
  have hyields := s.yields_delays draw
  refine ⟨s.delays draw, fun ds => ⟨fun h => h.unique hyields, fun h => h ▸ hyields⟩,
    ChainSpec.exists_build_eq_error_iff, fun c => ChainSpec.layout_of_build⟩

/-- Of three delays of a second the limit allows one. -/
example : (ChainSpec.build { maxAttempts := 4, timeout := some 1500 } fun _ => 0).map
    (·.stages.map Stage.role) =
      .ok [.main, .retry, .retryPastTimeout, .retryPastTimeout, .deadLetter] := by
  decide

end Redelivery
