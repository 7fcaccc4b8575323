import Redelivery.Settings

/-!
# Settings — topics that are not created

Settings write down what a plan asks for, each in a field of its own (`RetrySettings.written`).
The plan that is built is another one where no topics are created: how many partitions and replicas
they would have is left out of it (`RetrySettings.plan`).

How topics are created has no part in the building of a chain, but for a number of partitions that
is too small (`build_withCreation`).  The stages only keep it, and a record stays in its partition
where a stage has as many.

**Agreement** (`build_agrees`).  Settings fail with the same error as the plan that they write
down, or both give a configuration.  It is the same one if topics are created; else it is the same
but for the creation of topics, and no record that is not in partition zero stays in its partition
(`build_uncreated`).  Too few partitions are an error only if topics are created.
-/

namespace Redelivery

/-! ### Another creation of topics -/

/-- The stage with another creation of its topics. -/
def Stage.withCreation (x : TopicCreation) (s : Stage) : Stage := { s with creation := x }

/-- The chain with another creation of its topics. -/
def Chain.withCreation (x : TopicCreation) (c : Chain) : Chain :=
  ⟨c.main.withCreation x, c.later.map (Stage.withCreation x)⟩

/-- The configuration with another creation of topics, and all else as it is. -/
def Configuration.withCreation (x : TopicCreation) (c : Configuration) : Configuration :=
  { c with resolver := { c.resolver with chain := c.chain.withCreation x }, creation := x }

/-- Two stages keep a record in its partition alike if both have this partition or neither has. -/
theorem Stage.preservedPartition_eq_iff {x y : Stage} {p : Int} :
    x.preservedPartition p = y.preservedPartition p ↔
      (0 ≤ p → (p < x.creation.partitions ↔ p < y.creation.partitions)) := by
  unfold Stage.preservedPartition
  split
  · split
    · simp only [true_iff]
      omega
    · simp only [reduceCtorEq, false_iff]
      omega
  · split
    · simp only [reduceCtorEq, false_iff]
      omega
    · simp only [true_iff]
      omega

/-- Stages make a chain or not whatever the creation of their topics. -/
theorem Chain.ofStages_withCreation (x : TopicCreation) (l : List Stage) :
    ofStages (l.map (Stage.withCreation x)) = (ofStages l).map (Chain.withCreation x) := by
  have hcount (role : Role) (l : List Stage) :
      countRole (l.map (Stage.withCreation x)) role = countRole l role := by
    rw [countRole, List.countP_map]
    rfl
  have hsuffix (l : List Stage) :
      (l.map (Stage.withCreation x)).map Stage.suffix = l.map Stage.suffix := by
    rw [List.map_map]
    rfl
  cases l with
  | nil => rfl
  | cons main later =>
      -- roles and suffixes are all that is looked at
      have hmain : (main.withCreation x).isMain = main.isMain := rfl
      rw [List.map_cons]
      simp only [ofStages, hmain]
      rw [← List.map_cons, hsuffix, hcount, hcount, hcount]
      split
      · rfl
      · split
        · rfl
        · split
          · rfl
          · split
            · rfl
            · split <;> rfl

namespace ChainSpec

variable {s : ChainSpec} {x : TopicCreation} {draw : UInt32 → Nat}

theorem retryStages_withCreation (s : ChainSpec) (x : TopicCreation) (delays : List Millis)
    (waited : Millis) (l : List (String × Millis)) :
    { s with creation := x }.retryStages delays waited l =
      (s.retryStages delays waited l).map (Stage.withCreation x) := by
  induction l generalizing waited with
  | nil => rfl
  | cons y l ih =>
      simp only [retryStages, List.map_cons, ih]
      rfl

theorem stages_withCreation (s : ChainSpec) (x : TopicCreation) (delays : List Millis) :
    { s with creation := x }.stages delays = (s.stages delays).map (Stage.withCreation x) := by
  have hdead : { s with creation := x }.deadLetterStages delays =
      (s.deadLetterStages delays).map (Stage.withCreation x) := by
    unfold deadLetterStages
    split
    · simp only [List.map_append, List.map_map]
      rfl
    · rfl
  have hreuses : { s with creation := x }.reuses delays = s.reuses delays := rfl
  simp only [stages, hdead, hreuses, retryStages_withCreation, List.map_cons, List.map_append]
  split <;> rfl

/-- A chain is built alike whatever the creation of its topics, unless there are too few
partitions. -/
theorem build_withCreation (draw : UInt32 → Nat)
    (hx : 1 ≤ s.creation.partitions → 1 ≤ x.partitions) :
    (s.creation.partitions < 1 ∧
      s.build draw = .error (.invalid (.tooFewPartitions s.creation.partitions))) ∨
    { s with creation := x }.build draw = (s.build draw).map (Chain.withCreation x) := by
  have hdelays : { s with creation := x }.delays draw = s.delays draw := rfl
  unfold build
  by_cases hmax : s.maxAttempts = 0
  · rw [if_pos hmax, if_pos hmax]
    exact .inr rfl
  · rw [if_neg hmax, if_neg hmax]
    by_cases hlt : s.creation.partitions < 1
    · rw [if_pos hlt]
      exact .inl ⟨hlt, rfl⟩
    · have hge : ¬ x.partitions < 1 := Int.not_lt.mpr (hx (Int.not_lt.mp hlt))
      rw [if_neg hlt, if_neg hge]
      refine .inr ?_
      split
      · rfl
      · rw [hdelays, stages_withCreation, Chain.ofStages_withCreation]

theorem one_le_of_build {c : Chain} (h : s.build draw = .ok c) : 1 ≤ s.creation.partitions := by
  unfold build at h
  split at h
  · cases h
  · split at h
    · cases h
    · rename_i hge
      exact Int.not_lt.mp hge

end ChainSpec

namespace Plan

variable {p : Plan} {x : TopicCreation} {draw : UInt32 → Nat} {c : Configuration}

/-- What is checked before the chain is built: the scope and the rules for dead letters. -/
def prepared (p : Plan) : Except ConfigurationError (Scope × Routing) := do
  if !p.retryOn.isEmpty && !p.notRetryOn.isEmpty then throw (.invalid .includedAndExcluded)
  if p.concurrency = some 0 then throw (.invalid .noConcurrency)
  let scope ← Scope.ofTexts p.allowed p.denied p.patternKind p.caseSensitive
  let routing ← Routing.ofList p.routing
  return (scope, routing)

/-- The configuration of a plan with a scope and a chain. -/
def assembled (p : Plan) (scope : Scope) (chain : Chain) : Configuration where
  name := p.displayName
  resolver := { chain, classifier := p.classifier, timeout := p.timeout }
  scope := scope
  handler := p.handler
  strategy := p.strategy
  concurrency := p.concurrency
  creation := p.creation

theorem build_eq (p : Plan) (draw : UInt32 → Nat) :
    p.build draw = p.prepared >>= fun (scope, routing) =>
      ((p.chainSpec routing).build draw).map (p.assembled scope) := by
  unfold build prepared
  cases !p.retryOn.isEmpty && !p.notRetryOn.isEmpty with
  | true => rfl
  | false =>
      by_cases hnone : p.concurrency = some 0
      · simp only [hnone]
        rfl
      · simp only [hnone, Bool.false_eq_true, if_false]
        cases Scope.ofTexts p.allowed p.denied p.patternKind p.caseSensitive with
        | error e => rfl
        | ok scope =>
            cases Routing.ofList p.routing with
            | error e => rfl
            | ok routing =>
                simp only [bind, Except.bind, pure, Except.pure]
                cases (p.chainSpec routing).build draw <;> rfl

/-- A plan is built alike whatever the creation of topics, unless there are too few partitions. -/
theorem build_withCreation (draw : UInt32 → Nat)
    (hx : 1 ≤ p.creation.partitions → 1 ≤ x.partitions) :
    (p.creation.partitions < 1 ∧
      p.build draw = .error (.invalid (.tooFewPartitions p.creation.partitions))) ∨
    { p with creation := x }.build draw = (p.build draw).map (Configuration.withCreation x) := by
  rw [build_eq, build_eq]
  have hprepared : { p with creation := x }.prepared = p.prepared := rfl
  rw [hprepared]
  cases p.prepared with
  | error e => exact .inr rfl
  | ok y =>
      obtain ⟨scope, routing⟩ := y
      rcases ChainSpec.build_withCreation (s := p.chainSpec routing) draw hx with
        ⟨hlt, h⟩ | h
      · refine .inl ⟨hlt, ?_⟩
        show ((p.chainSpec routing).build draw).map (p.assembled scope) = _
        rw [h]
        rfl
      · refine .inr ?_
        show (({ p.chainSpec routing with creation := x } : ChainSpec).build draw).map _ =
          (((p.chainSpec routing).build draw).map (p.assembled scope)).map _
        rw [h]
        cases (p.chainSpec routing).build draw <;> rfl

/-- What was built has the creation of the plan, in every stage. -/
theorem withCreation_of_build (h : p.build draw = .ok c) : c.withCreation p.creation = c := by
  rcases build_withCreation (p := p) (x := p.creation) draw id with ⟨-, herr⟩ | hmap
  · rw [h] at herr
    cases herr
  · change p.build draw = (p.build draw).map _ at hmap
    rw [h] at hmap
    exact (Except.ok.inj hmap).symm

theorem one_le_of_build (h : p.build draw = .ok c) : 1 ≤ p.creation.partitions := by
  rw [build_eq] at h
  cases hp : p.prepared with
  | error e =>
      rw [hp] at h
      cases h
  | ok y =>
      rw [hp] at h
      cases hchain : (p.chainSpec y.2).build draw with
      | error e =>
          change ((p.chainSpec y.2).build draw).map (p.assembled y.1) = .ok c at h
          rw [hchain] at h
          cases h
      | ok chain => exact ChainSpec.one_le_of_build hchain

end Plan

/-! ### Settings as they are written -/

namespace RetrySettings

variable (s : RetrySettings) (fatal : NameSet) (draw : UInt32 → Nat)

/-- The plan with every field of the settings as it is written. -/
def written : Plan where
  name := s.name
  backoff := s.backoff
  maxAttempts := s.maxAttempts
  timeout := s.timeout.bind fun t => if t < 0 then none else some t.toUInt64
  retryOn := s.retryOn
  notRetryOn := s.notRetryOn
  traverse := s.traverse
  fatal := fatal
  allowed := s.included
  denied := s.excluded
  patternKind := s.patternKind
  caseSensitive := s.caseSensitive
  creation := s.creation
  routing := s.routing.map fun (suffix, kinds) => ⟨suffix, NameSet.ofList kinds⟩
  handler := none
  strategy := s.strategy
  retrySuffix := s.retrySuffix
  deadLetterSuffix := s.deadLetterSuffix
  suffixing := if s.suffixWithDelay then .delayValue else .index
  reuseTopic := s.reuseTopic
  concurrency := s.concurrency

/-- How the settings have topics created: as it is written if they are created at all. -/
def creates : TopicCreation := if s.creation.enabled then s.creation else .disabled

/-- How settings agree with the plan that they write down. -/
structure Agreement : Prop where
  /-- Where topics are created they are the same plan. -/
  created : s.creation.enabled = true → s.plan fatal = s.written fatal
  /-- What is built of the one is built of the other, but for the creation of topics. -/
  ok : ∀ c, (s.written fatal).build draw = .ok c →
    (s.plan fatal).build draw = .ok (c.withCreation s.creates)
  /-- An error is the same, unless it is for the partitions of topics that are not created. -/
  error : ∀ e, (s.written fatal).build draw = .error e → (s.plan fatal).build draw = .error e ∨
    s.creation.enabled = false ∧ s.creation.partitions < 1 ∧
      e = .invalid (.tooFewPartitions s.creation.partitions)
  same_iff : ∀ c, (s.written fatal).build draw = .ok c →
    ((s.plan fatal).build draw = .ok c ↔ s.creation.enabled = true ∨ s.creation = .disabled)
  /-- The same topics are created. -/
  requests : ∀ c, (s.written fatal).build draw = .ok c → ∀ main,
    (c.withCreation s.creates).topicsToCreate main = c.topicsToCreate main
  /-- Where no topics are created, records stay in partition zero and in no other. -/
  preserves_iff : ∀ c, (s.written fatal).build draw = .ok c → ∀ x ∈ c.chain.stages, ∀ p,
    ((x.withCreation s.creates).preservedPartition p = x.preservedPartition p ↔
      s.creation.enabled = true ∨ p ≤ 0 ∨ s.creation.partitions ≤ p)

variable {s fatal draw}

/-- A time that is not negative, as a number without sign. -/
theorem ofNat_toInt {t : Int64} (h : 0 ≤ t.toInt) : UInt64.ofNat t.toInt.toNat = t.toUInt64 := by
  have hint : t.toInt = t.toBitVec.toInt := rfl
  have hbits : t.toUInt64.toNat = t.toBitVec.toNat := rfl
  have hcond := BitVec.toInt_eq_toNat_cond t.toBitVec
  have hlt := t.toBitVec.isLt
  refine UInt64.toNat_inj.mp ?_
  rw [UInt64.toNat_ofNat', hbits]
  omega

theorem plan_eq : s.plan fatal = { s.written fatal with creation := s.creates } := by
  have htimeout (t : Int64) :
      (if 0 ≤ t.toInt then some (UInt64.ofNat t.toInt.toNat) else none) =
        if t < 0 then none else some t.toUInt64 := by
    have hneg : t < 0 ↔ ¬ 0 ≤ t.toInt := Int64.lt_iff_toInt_lt.trans Int.not_le.symm
    by_cases h : 0 ≤ t.toInt
    · rw [if_pos h, if_neg (mt hneg.mp (not_not_intro h)), ofNat_toInt h]
    · rw [if_neg h, if_pos (hneg.mpr h)]
  simp only [plan, written, creates, htimeout]

theorem creates_of_enabled (h : s.creation.enabled = true) : s.creates = s.creation := if_pos h

theorem creates_of_not_enabled (h : s.creation.enabled = false) : s.creates = .disabled := by
  simp [creates, h]

theorem one_le_partitions (h : 1 ≤ s.creation.partitions) : 1 ≤ s.creates.partitions := by
  unfold creates
  split
  · exact h
  · decide

/-- The plan of settings is built like the one that they write down, unless the latter has too few
partitions. -/
theorem build_plan (s : RetrySettings) (fatal : NameSet) (draw : UInt32 → Nat) :
    (s.creation.partitions < 1 ∧ (s.written fatal).build draw =
      .error (.invalid (.tooFewPartitions s.creation.partitions))) ∨
    (s.plan fatal).build draw =
      ((s.written fatal).build draw).map (Configuration.withCreation s.creates) := by
  rw [plan_eq]
  exact Plan.build_withCreation (p := s.written fatal) draw one_le_partitions

section

variable {c : Configuration} (h : (s.written fatal).build draw = .ok c)
include h

theorem build_plan_of_ok : (s.plan fatal).build draw = .ok (c.withCreation s.creates) := by
  rcases build_plan s fatal draw with ⟨-, herr⟩ | hmap
  · rw [h] at herr
    cases herr
  · rw [hmap, h]
    rfl

theorem creation_of_build : c.creation = s.creation :=
  congrArg Configuration.creation (Plan.withCreation_of_build h).symm

theorem stage_creation_of_build {x : Stage} (hx : x ∈ c.chain.stages) :
    x.creation = s.creation := by
  have hc : c.chain.stages = c.chain.stages.map (Stage.withCreation s.creation) :=
    congrArg (fun c => c.chain.stages) (Plan.withCreation_of_build h).symm
  rw [hc] at hx
  obtain ⟨y, -, rfl⟩ := List.mem_map.mp hx
  rfl

end

/-- **Settings agree** with the plan that they write down, but for the creation of topics that are
not created. -/
theorem build_agrees (s : RetrySettings) (fatal : NameSet) (draw : UInt32 → Nat) :
    s.Agreement fatal draw where
  created henabled := by
    rw [plan_eq, creates_of_enabled henabled]
    rfl
  ok _ h := build_plan_of_ok h
  error e h := by
    rcases build_plan s fatal draw with ⟨hlt, herr⟩ | hmap
    · cases henabled : s.creation.enabled with
      | true =>
          left
          rw [plan_eq, creates_of_enabled henabled]
          exact h
      | false =>
          rw [h] at herr
          exact .inr ⟨rfl, hlt, Except.error.inj herr⟩
    · rw [hmap, h]
      exact .inl rfl
  same_iff c h := by
    rw [build_plan_of_ok h]
    constructor
    · intro hc
      cases henabled : s.creation.enabled with
      | true => exact .inl rfl
      | false =>
          have hcreation := congrArg Configuration.creation (Except.ok.inj hc)
          rw [creation_of_build h] at hcreation
          rw [← hcreation]
          exact .inr (creates_of_not_enabled henabled)
    · intro hs
      have hsame : s.creates = s.creation := by
        rcases hs with henabled | hdisabled
        · exact creates_of_enabled henabled
        · rw [creates_of_not_enabled (by rw [hdisabled]; rfl), hdisabled]
      rw [hsame]
      exact congrArg Except.ok (Plan.withCreation_of_build h)
  requests c h main := by
    cases henabled : s.creation.enabled with
    | true =>
        rw [creates_of_enabled henabled]
        exact congrArg (·.topicsToCreate main) (Plan.withCreation_of_build h)
    | false =>
        have hc : c.creation.enabled = false := by rw [creation_of_build h, henabled]
        simp [Configuration.topicsToCreate, Configuration.withCreation, hc,
          creates_of_not_enabled henabled, TopicCreation.disabled]
  preserves_iff c h x hx p := by
    have hx' := stage_creation_of_build h hx
    have hone : 1 ≤ s.creation.partitions := Plan.one_le_of_build h
    rw [Stage.preservedPartition_eq_iff, hx']
    show (0 ≤ p → (p < s.creates.partitions ↔ p < s.creation.partitions)) ↔ _
    cases henabled : s.creation.enabled with
    | true => simp [creates_of_enabled henabled]
    | false =>
        rw [creates_of_not_enabled henabled]
        show (0 ≤ p → (p < 1 ↔ p < s.creation.partitions)) ↔ _
        simp only [Bool.false_eq_true, false_or]
        omega

/-! ### Settings for three partitions that are not created -/

/-- Settings for topics with three partitions, which are not created. -/
def uncreated : RetrySettings :=
  { maxAttempts := 2, creation := { enabled := false, partitions := 3, replication := 2 } }

/-- In the configuration of such settings no stage has partition two, and in that of the plan that
they write down all of them have. -/
theorem build_uncreated :
    let stays := fun c : Configuration => c.chain.stages.map (·.preservedPartition 2)
    ((uncreated.plan .empty).build fun _ => 0).map stays = .ok [none, none, none] ∧
      ((uncreated.written .empty).build fun _ => 0).map stays = .ok [some 2, some 2, some 2] ∧
      (uncreated.plan .empty).build ≠ (uncreated.written .empty).build := by
  intro stays
  have hplan : ((uncreated.plan .empty).build fun _ => 0).map stays = .ok [none, none, none] := rfl
  have hwritten : ((uncreated.written .empty).build fun _ => 0).map stays =
      .ok [some 2, some 2, some 2] := rfl
  refine ⟨hplan, hwritten, fun h => ?_⟩
  rw [h, hwritten] at hplan
  simp at hplan

end RetrySettings

end Redelivery
