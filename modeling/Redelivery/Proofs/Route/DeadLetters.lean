import Mathlib.Data.List.Perm.Basic
import Redelivery.Proofs.Chain.Layout
import Redelivery.Proofs.Chain.Rules
import Redelivery.Proofs.Route.Walk

/-!
# Route — where dead letters go

A record is given up after an attempt that failed, or because its headers do not say its state
(`Resolver.Surrenders`).  The stage that receives it is that of the rule for its failure, or the one
for dead letters in general if no rule names a level that is looked at (`Chain.Receives`).

**The stage for a failure** (`directs_of_build`).  In a chain that was built from accepted rules
there is exactly one such stage, and records go there, except that a record whose time is up goes to
the dead letters in general.  Without dead-letter stages every record that is given up is discarded.
The order of the rules does not matter (`reorder_build`, `DirectsDeadLetters.topic_eq`).
-/

namespace Redelivery

/-- The stage receives the records that are given up for a failure with these levels. -/
inductive Chain.Receives (c : Chain) (rules : List RoutingRule) (levels : List Level) (s : Stage) :
    Prop where
  | rule {rule : RoutingRule} (h : Routing.Concerns rules levels rule) (hs : s ∈ c.stages)
      (hrole : s.role = .reroutedDeadLetter) (hrouting : s.routingSuffix = some rule.suffix)
  | default (h : ∀ level ∈ levels, ¬ Routing.Names rules level.kind) (hs : s ∈ c.stages)
      (hrole : s.role = .deadLetter)

/-- The routes by which records with a failure are given up. -/
inductive Resolver.Surrenders (r : Resolver) (f : Failure) : Route → Prop where
  | failed {current : Stage} {attempts : UInt32} {firstAttempt now : Instant}
      (h : (r.next current attempts firstAttempt f now).isTerminal = true) :
      Surrenders r f (r.next current attempts firstAttempt f now)
  | illegible : Surrenders r f (r.deadLetterFor f .missingRetryHeaders)

/-- How the records with a failure are given up in a chain with these rules. -/
structure DirectsDeadLetters (s : ChainSpec) (c : Chain) (rules : List RoutingRule) (r : Resolver)
    (f : Failure) : Prop where
  /-- No two rules are for the failure. -/
  rule_unique : ∀ a b, Routing.Concerns rules (f.lookedAt r.classifier.traverse) a →
    Routing.Concerns rules (f.lookedAt r.classifier.traverse) b → a = b
  existsUnique_receives : s.keepsDeadLetters = true →
    ∃! x, c.Receives rules (f.lookedAt r.classifier.traverse) x
  existsUnique_default : s.keepsDeadLetters = true → ∃! x, x ∈ c.stages ∧ x.role = .deadLetter
  kept : s.keepsDeadLetters = true → ∀ route, r.Surrenders f route →
    ∃ x reason, route = .deadLetter x reason ∧
      (reason ≠ .timeoutExpired → c.Receives rules (f.lookedAt r.classifier.traverse) x) ∧
      (reason = .timeoutExpired → x ∈ c.stages ∧ x.role = .deadLetter)
  discarded : s.keepsDeadLetters = false → ∀ route, r.Surrenders f route →
    ∃ reason, route = .discard reason

/-! ### Dead-letter stages -/

namespace ChainSpec

variable {s : ChainSpec} {draw : UInt32 → Nat} {c : Chain} {x : Stage}

/-- The dead-letter stage of a rule with a suffix. -/
def stageOfRule (s : ChainSpec) (delays : List Millis) (suffix : String) : Stage :=
  s.stage delays (suffix ++ s.deadLetterSuffix) 0 .reroutedDeadLetter (some suffix)

/-- The stage for dead letters in general. -/
def defaultStage (s : ChainSpec) (delays : List Millis) : Stage :=
  s.stage delays s.deadLetterSuffix 0 .deadLetter none

/-- The dead-letter stages of a chain that was built. -/
theorem mem_stages_iff (h : s.build draw = .ok c) (hd : x.role.isDeadLetter = true) :
    x ∈ c.stages ↔ s.keepsDeadLetters = true ∧
      ((∃ rule ∈ s.routing.rules, x = s.stageOfRule (s.delays draw) rule.suffix) ∨
        x = s.defaultStage (s.delays draw)) := by
  have hne : x ≠ c.main := by
    rintro rfl
    rw [(build_eq_ok h).2.2.1] at hd
    cases hd
  have hretry : x ∉ c.retries := fun hx => by
    rw [Role.isDeadLetter_of_isRetry (List.mem_filter.mp hx).2] at hd
    cases hd
  rw [stages_build h, List.mem_cons, List.mem_append, or_iff_right hne, or_iff_right hretry,
    deadLetterStages]
  cases s.keepsDeadLetters with
  | false => simp
  | true => simp [stageOfRule, defaultStage, eq_comm]

theorem eq_stageOfRule (h : s.build draw = .ok c) (hx : x ∈ c.stages)
    (hrole : x.role = .reroutedDeadLetter) {suffix : String}
    (hsuffix : x.routingSuffix = some suffix) : x = s.stageOfRule (s.delays draw) suffix := by
  rcases ((mem_stages_iff h (by rw [hrole]; rfl)).mp hx).2 with ⟨rule, -, rfl⟩ | rfl
  · cases hsuffix
    rfl
  · cases hrole

theorem eq_defaultStage (h : s.build draw = .ok c) (hx : x ∈ c.stages)
    (hrole : x.role = .deadLetter) : x = s.defaultStage (s.delays draw) := by
  rcases ((mem_stages_iff h (by rw [hrole]; rfl)).mp hx).2 with ⟨rule, -, rfl⟩ | rfl
  · cases hrole
  · rfl

section

variable (h : s.build draw = .ok c) (hk : s.keepsDeadLetters = true)
include h hk

theorem stageOfRule_mem {rule : RoutingRule} (hrule : rule ∈ s.routing.rules) :
    s.stageOfRule (s.delays draw) rule.suffix ∈ c.stages :=
  (mem_stages_iff h rfl).mpr ⟨hk, .inl ⟨rule, hrule, rfl⟩⟩

theorem defaultStage_mem : s.defaultStage (s.delays draw) ∈ c.stages :=
  (mem_stages_iff h rfl).mpr ⟨hk, .inr rfl⟩

theorem reroutedDeadLetter?_eq {rule : RoutingRule} (hrule : rule ∈ s.routing.rules) :
    c.reroutedDeadLetter? rule.suffix = some (s.stageOfRule (s.delays draw) rule.suffix) := by
  refine find?_eq_of_unique (stageOfRule_mem h hk hrule) (by simp [stageOfRule, stage])
    fun x hx hp => ?_
  obtain ⟨hrole, hsuffix⟩ : x.role = .reroutedDeadLetter ∧ x.routingSuffix = some rule.suffix := by
    simpa using hp
  exact eq_stageOfRule h hx hrole hsuffix

theorem deadLetter?_eq : c.deadLetter? = some (s.defaultStage (s.delays draw)) :=
  find?_eq_of_unique (defaultStage_mem h hk) (by simp [defaultStage, stage])
    fun _ hx hp => eq_defaultStage h hx (by simpa using hp)

end

/-- Without dead-letter stages there are none. -/
theorem not_mem_stages (h : s.build draw = .ok c) (hk : s.keepsDeadLetters = false)
    (hd : x.role.isDeadLetter = true) : x ∉ c.stages := fun hx => by
  have := ((mem_stages_iff h hd).mp hx).1
  rw [hk] at this
  cases this

end ChainSpec

/-! ### The stage for a failure -/

namespace Resolver

/-- What is given up goes where its reason says. -/
theorem Surrenders.eq_giveUp {r : Resolver} {f : Failure} {route : Route}
    (h : r.Surrenders f route) : ∃ reason, route = r.giveUp f reason := by
  cases h with
  | illegible => exact ⟨.missingRetryHeaders, rfl⟩
  | @failed current attempts firstAttempt now h =>
      -- the reasons in the order in which they are looked at; the only other route is to a retry
      unfold Resolver.next at h ⊢
      split
      · exact ⟨.timeoutExpired, rfl⟩
      · rename_i hlate
        rw [if_neg hlate] at h
        split
        · exact ⟨.fatal, rfl⟩
        · rename_i hfatal
          rw [if_neg hfatal] at h
          split
          · exact ⟨.attemptsExhausted, rfl⟩
          · rename_i hdead
            rw [if_neg hdead] at h
            split
            · rename_i x hx
              rw [hx] at h
              cases h
            · exact ⟨.attemptsExhausted, rfl⟩

section

variable {s : ChainSpec} {draw : UInt32 → Nat} {c : Chain} {rules : List RoutingRule}
  (h : s.build draw = .ok c) (hs : s.routing = ⟨rules⟩)
  (hrules : rules.Pairwise RoutingRule.Apart) (classifier : Classifier) (timeout : Option Millis)
  (f : Failure) (reason : TerminalReason)
include h hs hrules

/-- The dead letters of a failure go to a stage that receives it. -/
theorem receives_deadLetterFor (hk : s.keepsDeadLetters = true) :
    ∃ x, deadLetterFor ⟨c, classifier, timeout⟩ f reason = .deadLetter x reason ∧
      c.Receives rules (f.lookedAt classifier.traverse) x := by
  have hrouting : c.main.routing = ⟨rules⟩ := by
    rw [(ChainSpec.build_eq_ok h).2.2.1]
    exact hs
  unfold deadLetterFor
  rw [hrouting]
  cases hfind : Routing.suffixFor? ⟨rules⟩ f classifier.traverse with
  | some suffix =>
      -- each rule has a stage of its own in the chain, so the second look-up cannot fail
      obtain ⟨rule, hrule, rfl⟩ := (Routing.suffixFor?_eq_some_iff hrules).mp hfind
      have hmem : rule ∈ s.routing.rules := hs ▸ hrule.mem
      refine ⟨s.stageOfRule (s.delays draw) rule.suffix, ?_,
        .rule hrule (ChainSpec.stageOfRule_mem h hk hmem) rfl rfl⟩
      simp only [Option.bind_some, ChainSpec.reroutedDeadLetter?_eq h hk hmem]
  | none =>
      refine ⟨s.defaultStage (s.delays draw), ?_,
        .default (Routing.suffixFor?_eq_none_iff.mp hfind) (ChainSpec.defaultStage_mem h hk) rfl⟩
      simp only [Option.bind_none, toDeadLetters, ChainSpec.deadLetter?_eq h hk]

omit hs hrules in
/-- A chain without dead-letter stages discards. -/
theorem giveUp_eq_discard (hk : s.keepsDeadLetters = false) :
    giveUp ⟨c, classifier, timeout⟩ f reason = .discard reason := by
  have hdefault : c.deadLetter? = none := List.find?_eq_none.mpr fun x hx hp =>
    ChainSpec.not_mem_stages h hk (by rw [show x.role = .deadLetter by simpa using hp]; rfl) hx
  have hrerouted : ∀ suffix, c.reroutedDeadLetter? suffix = none := fun suffix =>
    List.find?_eq_none.mpr fun x hx hp => by
      have hrole : x.role = .reroutedDeadLetter := (of_decide_eq_true hp).1
      exact ChainSpec.not_mem_stages h hk (by rw [hrole]; rfl) hx
  have hgeneral : ∀ reason, toDeadLetters ⟨c, classifier, timeout⟩ reason = .discard reason :=
    fun reason => by simp only [toDeadLetters, hdefault]
  have hfor : ∀ reason, deadLetterFor ⟨c, classifier, timeout⟩ f reason = .discard reason :=
    fun reason => by
      unfold deadLetterFor
      cases c.main.routing.suffixFor? f classifier.traverse with
      | none => exact hgeneral reason
      | some suffix => simp only [Option.bind_some, hrerouted, hgeneral]
  cases reason with
  | timeoutExpired => exact hgeneral _
  | fatal | attemptsExhausted | missingRetryHeaders => exact hfor _

/-- A chain with dead-letter stages keeps what is given up. -/
theorem giveUp_eq_deadLetter (hk : s.keepsDeadLetters = true) :
    ∃ x, giveUp ⟨c, classifier, timeout⟩ f reason = .deadLetter x reason ∧
      (reason ≠ .timeoutExpired → c.Receives rules (f.lookedAt classifier.traverse) x) ∧
      (reason = .timeoutExpired → x ∈ c.stages ∧ x.role = .deadLetter) := by
  by_cases htime : reason = .timeoutExpired
  · subst htime
    refine ⟨s.defaultStage (s.delays draw), ?_, nofun,
      fun _ => ⟨ChainSpec.defaultStage_mem h hk, rfl⟩⟩
    simp only [giveUp, toDeadLetters, ChainSpec.deadLetter?_eq h hk]
  · obtain ⟨x, hx, hreceives⟩ := receives_deadLetterFor h hs hrules classifier timeout f reason hk
    refine ⟨x, ?_, fun _ => hreceives, fun e => absurd e htime⟩
    rw [← hx]
    cases reason with
    | timeoutExpired => exact absurd rfl htime
    | fatal | attemptsExhausted | missingRetryHeaders => rfl

end

end Resolver

namespace Chain

variable {s : ChainSpec} {draw : UInt32 → Nat} {c : Chain} {rules : List RoutingRule}
  {levels : List Level} {x : Stage}

theorem Receives.mem (h : c.Receives rules levels x) : x ∈ c.stages := by
  cases h <;> assumption

/-- The stage that receives a failure, by the rule for it. -/
theorem Receives.cases_build (h : s.build draw = .ok c) (hx : c.Receives rules levels x) :
    (∃ rule, Routing.Concerns rules levels rule ∧
      x = s.stageOfRule (s.delays draw) rule.suffix) ∨
    (∀ level ∈ levels, ¬ Routing.Names rules level.kind) ∧
      x = s.defaultStage (s.delays draw) := by
  cases hx with
  | rule hrule hmem hrole hsuffix =>
      exact .inl ⟨_, hrule, ChainSpec.eq_stageOfRule h hmem hrole hsuffix⟩
  | default hnone hmem hrole => exact .inr ⟨hnone, ChainSpec.eq_defaultStage h hmem hrole⟩

theorem not_concerns {rule : RoutingRule}
    (h : ∀ level ∈ levels, ¬ Routing.Names rules level.kind) :
    ¬ Routing.Concerns rules levels rule := by
  rintro ⟨hmem, above, level, below, rfl, hk, -⟩
  exact h level (by simp) ⟨rule, hmem, hk⟩

/-- Stages that receive a failure in chains of two orders of the rules have the same suffix. -/
theorem Receives.suffix_eq {rules' : List RoutingRule} {s' : ChainSpec} {c' : Chain} {x' : Stage}
    (hrules : rules.Pairwise RoutingRule.Apart) (hperm : rules'.Perm rules)
    (h : s.build draw = .ok c) (h' : s'.build draw = .ok c')
    (hdead : s'.deadLetterSuffix = s.deadLetterSuffix) (hx : c.Receives rules levels x)
    (hx' : c'.Receives rules' levels x') : x'.suffix = x.suffix := by
  rcases hx.cases_build h with ⟨rule, hrule, rfl⟩ | ⟨hnone, rfl⟩
  -- the rules of both chains are the same, and so both have one for the failure or neither has
  · rcases hx'.cases_build h' with ⟨rule', hrule', rfl⟩ | ⟨hnone', rfl⟩
    · have := ((Routing.concerns_perm hperm).mp hrule').unique hrules hrule
      simp only [ChainSpec.stageOfRule, ChainSpec.stage, this, hdead]
    · exact absurd ((Routing.concerns_perm hperm).mpr hrule) (not_concerns hnone')
  · rcases hx'.cases_build h' with ⟨rule', hrule', rfl⟩ | ⟨hnone', rfl⟩
    · exact absurd ((Routing.concerns_perm hperm).mp hrule') (not_concerns hnone)
    · exact hdead

end Chain

/-! ### The order of the rules -/

/-- What a chain checks of a stage. -/
def Stage.label (x : Stage) : String × Role := (x.suffix, x.role)

/-- Stages with the same labels, in any order behind the first, make a chain too. -/
theorem Chain.exists_ofStages_perm {main main' : Stage} {later later' : List Stage}
    (hmain : main'.label = main.label)
    (hlater : (later'.map Stage.label).Perm (later.map Stage.label))
    (h : ∃ c, ofStages (main :: later) = .ok c) : ∃ c, ofStages (main' :: later') = .ok c := by
  -- it is checked that suffixes differ, how often roles occur, and that a main stage is first
  have hlabels : ((main' :: later').map Stage.label).Perm ((main :: later).map Stage.label) := by
    rw [List.map_cons, List.map_cons, hmain]
    exact hlater.cons _
  have hsuffixes : ((main' :: later').map Stage.suffix).Perm
      ((main :: later).map Stage.suffix) := by
    simpa [Stage.label, Function.comp_def] using hlabels.map Prod.fst
  have hcount : ∀ role, countRole (main' :: later') role = countRole (main :: later) role := by
    intro role
    have := hlabels.countP_eq (·.2 = role)
    rw [List.countP_map, List.countP_map] at this
    exact this
  have hrole : main'.isMain = main.isMain :=
    congrArg (fun label : String × Role => decide (label.2 = .main)) hmain
  rw [exists_ofStages_iff] at h ⊢
  rwa [hsuffixes.nodup_iff, hcount, hcount, hcount, hrole]

namespace ChainSpec

variable {s : ChainSpec} {draw : UInt32 → Nat}

theorem labels_retryStages (s : ChainSpec) (routing : Routing) (delays : List Millis)
    (waited : Millis) (l : List (String × Millis)) :
    (retryStages { s with routing } delays waited l).map Stage.label =
      (s.retryStages delays waited l).map Stage.label := by
  induction l generalizing waited with
  | nil => rfl
  | cons a l ih =>
      rw [retryStages, retryStages, List.map_cons, List.map_cons, ih]
      rfl

theorem labels_deadLetterStages {s : ChainSpec} {rules rules' : List RoutingRule}
    (hs : s.routing = ⟨rules⟩) (hperm : rules'.Perm rules) (delays : List Millis) :
    ((deadLetterStages { s with routing := ⟨rules'⟩ } delays).map Stage.label).Perm
      ((s.deadLetterStages delays).map Stage.label) := by
  unfold deadLetterStages
  split
  · rw [hs]
    simp only [List.map_append, List.map_map]
    exact (hperm.map _).append_right _
  · exact .refl _

theorem labels_retriesFor (s : ChainSpec) (routing : Routing) (delays : List Millis) :
    (retriesFor { s with routing } delays).map Stage.label =
      (s.retriesFor delays).map Stage.label := by
  unfold retriesFor
  rw [show reuses { s with routing } delays = s.reuses delays from rfl]
  split
  · rfl
  · exact labels_retryStages ..

/-- **A chain can be built** from any order of the rules if it can be built from one. -/
theorem reorder_build {c : Chain} {rules rules' : List RoutingRule}
    (h : s.build draw = .ok c) (hs : s.routing = ⟨rules⟩) (hperm : rules'.Perm rules) :
    ∃ c', build { s with routing := ⟨rules'⟩ } draw = .ok c' := by
  obtain ⟨h₁, h₂, h₃, hstages⟩ := build_isOk_iff.mp ⟨c, h⟩
  have hlater : ((retriesFor { s with routing := ⟨rules'⟩ } (s.delays draw) ++
      deadLetterStages { s with routing := ⟨rules'⟩ } (s.delays draw)).map Stage.label).Perm
        ((s.retriesFor (s.delays draw) ++ s.deadLetterStages (s.delays draw)).map Stage.label) := by
    rw [List.map_append, List.map_append, labels_retriesFor]
    exact (labels_deadLetterStages hs hperm _).append_left _
  have hmain : (stage { s with routing := ⟨rules'⟩ } (s.delays draw) "" 0 .main none).label =
      (s.stage (s.delays draw) "" 0 .main none).label := rfl
  exact build_isOk_iff.mpr ⟨h₁, h₂, h₃, Chain.exists_ofStages_perm hmain hlater hstages⟩

end ChainSpec

/-! ### All failures -/

namespace DirectsDeadLetters

variable {s : ChainSpec} {draw : UInt32 → Nat} {c : Chain} {rules : List RoutingRule}

theorem of_build (h : s.build draw = .ok c) (hs : s.routing = ⟨rules⟩)
    (hrules : rules.Pairwise RoutingRule.Apart) (classifier : Classifier)
    (timeout : Option Millis) (f : Failure) :
    DirectsDeadLetters s c rules ⟨c, classifier, timeout⟩ f where
  rule_unique _ _ ha hb := ha.unique hrules hb
  existsUnique_receives hk := by
    obtain ⟨x, -, hx⟩ :=
      Resolver.receives_deadLetterFor h hs hrules classifier timeout f .fatal hk
    exact ⟨x, hx, fun y hy => (ChainSpec.build_eq_ok h).2.1.eq_of_mem hy.mem hx.mem
      (hx.suffix_eq hrules (.refl _) h h rfl hy)⟩
  existsUnique_default hk :=
    ⟨_, ⟨ChainSpec.defaultStage_mem h hk, rfl⟩, fun _ hx => ChainSpec.eq_defaultStage h hx.1 hx.2⟩
  kept hk route hroute := by
    obtain ⟨reason, rfl⟩ := hroute.eq_giveUp
    obtain ⟨x, hx⟩ := Resolver.giveUp_eq_deadLetter h hs hrules classifier timeout f reason hk
    exact ⟨x, reason, hx⟩
  discarded hk route hroute := by
    obtain ⟨reason, rfl⟩ := hroute.eq_giveUp
    exact ⟨reason, Resolver.giveUp_eq_discard h classifier timeout f reason hk⟩

/-- The topic for a failure and a reason is the same in chains of two orders of the rules. -/
theorem topic_eq {rules' : List RoutingRule} {s' : ChainSpec} {c' : Chain} {r r' : Resolver}
    {f : Failure} (hd : DirectsDeadLetters s c rules r f)
    (hd' : DirectsDeadLetters s' c' rules' r' f) (hrules : rules.Pairwise RoutingRule.Apart)
    (hperm : rules'.Perm rules) (h : s.build draw = .ok c) (h' : s'.build draw = .ok c')
    (hdead : s'.deadLetterSuffix = s.deadLetterSuffix)
    (hkeeps : s'.keepsDeadLetters = s.keepsDeadLetters) (hr : r'.classifier = r.classifier)
    {route route' : Route} (hroute : r.Surrenders f route) (hroute' : r'.Surrenders f route')
    (hreason : route'.reason? = route.reason?) (main : String) :
    route'.topic? main = route.topic? main := by
  cases hk : s.keepsDeadLetters with
  | false =>
      obtain ⟨_, rfl⟩ := hd.discarded hk route hroute
      obtain ⟨_, rfl⟩ := hd'.discarded (hkeeps.trans hk) route' hroute'
      rfl
  | true =>
      obtain ⟨x, reason, rfl, hfor, htime⟩ := hd.kept hk route hroute
      obtain ⟨x', reason', rfl, hfor', htime'⟩ := hd'.kept (hkeeps.trans hk) route' hroute'
      obtain rfl : reason' = reason := Option.some.inj hreason
      have hsuffix : x'.suffix = x.suffix := by
        by_cases hlate : reason' = .timeoutExpired
        · obtain ⟨hx, hrole⟩ := htime hlate
          obtain ⟨hx', hrole'⟩ := htime' hlate
          rw [ChainSpec.eq_defaultStage h hx hrole, ChainSpec.eq_defaultStage h' hx' hrole']
          exact hdead
        · exact (hfor hlate).suffix_eq hrules hperm h h' hdead (hr ▸ hfor' hlate)
      simp only [Route.topic?, Route.stage?, Option.map_some, Stage.topicFor, hsuffix]

end DirectsDeadLetters

/-- **Dead letters go where the rules say**, and in whatever order these are written down. -/
theorem directs_of_build (rules : List RoutingRule) :
    ((∃ routing, Routing.ofList rules = .ok routing) ↔ rules.Pairwise RoutingRule.Apart) ∧
    ∀ (s : ChainSpec) (draw : UInt32 → Nat) (c : Chain), Routing.ofList rules = .ok s.routing →
      s.build draw = .ok c → ∀ (classifier : Classifier) (timeout : Option Millis) (f : Failure),
      DirectsDeadLetters s c rules ⟨c, classifier, timeout⟩ f ∧
      ∀ rules' : List RoutingRule, rules'.Perm rules → ∃ routing' c',
        Routing.ofList rules' = .ok routing' ∧
        ChainSpec.build { s with routing := routing' } draw = .ok c' ∧
        ∀ route route', Resolver.Surrenders ⟨c, classifier, timeout⟩ f route →
          Resolver.Surrenders ⟨c', classifier, timeout⟩ f route' →
          route'.reason? = route.reason? → ∀ main, route'.topic? main = route.topic? main := by
  have hsymm : ∀ {a b : RoutingRule}, a.Apart b → b.Apart a := fun h => Std.Symm.symm _ _ h
  refine ⟨by simp [Routing.ofList_eq_ok_iff], fun s draw c haccept h classifier timeout f => ?_⟩
  obtain ⟨hs, hrules⟩ := Routing.ofList_eq_ok_iff.mp haccept
  have hd := DirectsDeadLetters.of_build h hs hrules classifier timeout f
  refine ⟨hd, fun rules' hperm => ?_⟩
  have hrules' := (hperm.pairwise_iff hsymm).mpr hrules
  obtain ⟨c', h'⟩ := ChainSpec.reorder_build h hs hperm
  have hd' := DirectsDeadLetters.of_build h' rfl hrules' classifier timeout f
  refine ⟨⟨rules'⟩, c', Routing.ofList_eq_ok_iff.mpr ⟨rfl, hrules'⟩, h', ?_⟩
  intro route route' hroute hroute' hreason main
  exact hd.topic_eq hd' hrules hperm h h' rfl rfl rfl hroute hroute' hreason main

/-- Failures of two kinds have dead letters of their own, and one attempt is made. -/
def ChainSpec.routed : ChainSpec where
  maxAttempts := 1
  routing := ⟨[⟨"-io", ⟨["Io"]⟩⟩, ⟨"-db", ⟨["Db"]⟩⟩]⟩

/-- A failure whose cause a rule names. -/
def Failure.slowDatabase : Failure :=
  (Failure.new "Timeout" "it is slow").causedBy (Failure.new "Db" "it is down")

/-- A record goes to the stage of the rule that names a cause, if causes are looked at. -/
theorem directs_of_build_routed :
    Routing.ofList ChainSpec.routed.routing.rules = .ok ChainSpec.routed.routing ∧
    ∃ c, ChainSpec.routed.build (fun _ => 0) = .ok c ∧
      DirectsDeadLetters .routed c ChainSpec.routed.routing.rules
        ⟨c, { traverse := true }, none⟩ .slowDatabase ∧
      (Resolver.deadLetterFor ⟨c, { traverse := true }, none⟩ .slowDatabase .fatal).topic?
        "orders" = some "orders-db-dlt" := by
  have haccept : Routing.ofList ChainSpec.routed.routing.rules =
      .ok ChainSpec.routed.routing := by decide
  refine ⟨haccept, _, rfl, ?_, by decide⟩
  exact ((directs_of_build ChainSpec.routed.routing.rules).2 .routed (fun _ => 0) _ haccept rfl
    { traverse := true } none .slowDatabase).1

end Redelivery
