import Redelivery.Proofs.Fleet.Passage
import Redelivery.Proofs.Route.Walk

/-!
# Fleet — the order of copies

The workers of a group share its partitions, and they publish copies and acknowledge records in
separate steps.  Still the records of one partition go to any other one in their order
(`Fleet.between`): a group is handed the next record of a partition when the one before it was
acknowledged.

**Order** (`run_keepsOrder`).  A retry topic that is entered once gets its records from one topic,
that of the stage before it (`Ledger.of_target`).  If a partition is preserved on all stages, the
records of the main topic's partition thus stay in it, and in their order, on their way through
these topics (`Ledger.forwards`).
-/

namespace Redelivery

/-- The log that a place is in: its topic and partition. -/
def Place.log (x : Place) : String × Nat := (x.topic, x.partition)

/-- The stage is the `k`th of those with attempts, and is entered once. -/
structure Chain.EnteredOnce (c : Chain) (k : Nat) (s : Stage) : Prop where
  position : (c.main :: c.retries)[k]? = some s
  role : s.role ≠ .reusableRetry

/-- The copy is of a record on stage `s` of a main topic's chain, and on its stage `s'`. -/
structure Copy.Enters (a : Copy) (e : Endpoint) (main : String) (s s' : Stage) : Prop where
  group : a.group = e.group ++ s.suffix
  source : a.source.topic = s.topicFor main
  partition : ∀ q, s'.preservedPartition a.source.partition = some q → q = a.target.partition

namespace Fleet

/-- The copies of a group from one log to another, in the order in which they were published. -/
def between (f : Fleet) (group : String) (source target : String × Nat) : List Copy :=
  f.copies.filter fun a => a.group = group ∧ a.source.log = source ∧ a.target.log = target

/-- A record of a partition of a main topic was passed on to a place on a stage of its chain. -/
structure Forwards (f : Fleet) (main : String) (partition : Nat) (s : Stage) (x y : Place) :
    Prop where
  source : x.log = (main, partition)
  reaches : f.Reaches x y
  target : y.topic = s.topicFor main

/-- What a fleet keeps in order. -/
structure KeepsOrder (c : Container) (f : Fleet) : Prop where
  /-- The logs hold what was published from outside and the copies. -/
  entry_iff : ∀ x, (f.broker.entryAt? x).isSome ↔ x ∈ f.published ++ f.copies.map Copy.target
  kept : ∀ a ∈ f.copies, (f.broker.entryAt? a.source).isSome
  /-- A record has at most one copy. -/
  once : (f.copies.map Copy.source).Nodup
  /-- Copies from one log to another are in the order of their sources. -/
  between : ∀ group source target, (f.between group source target).Pairwise fun a b =>
    a.source.offset < b.source.offset ∧ a.target.offset < b.target.offset
  /-- A preserved partition of a main topic goes through the retry topics that are entered once,
  and stays in order. -/
  forwards : ∀ e configuration, (e, configuration) ∈ c.endpoints → ∀ main ∈ e.topics,
    ∀ partition : Nat,
    (∀ s ∈ configuration.chain.stages, (partition : Int) < s.creation.partitions) →
    ∀ s ∈ configuration.chain.stages, s.role.isRetry = true → s.role ≠ .reusableRetry →
    ∀ x x' y y', f.Forwards main partition s x y → f.Forwards main partition s x' y' →
      y.partition = partition ∧ y'.partition = partition ∧
        (y.offset < y'.offset ↔ x.offset < x'.offset)

variable {c : Container} {f : Fleet} {e : Endpoint} {configuration : Configuration}
  {main : String} {partition k : Nat} {s : Stage} {x x' y y' : Place} {a b : Copy}

/-! ### Two copies -/

/-- Copies from one log to another are in the order of their sources. -/
theorem Ledger.between (hl : Ledger c f) (group : String) (source target : String × Nat) :
    (f.between group source target).Pairwise fun a b =>
      a.source.offset < b.source.offset ∧ a.target.offset < b.target.offset := by
  refine (hl.ordered.filter _).imp_of_mem fun {a b} ha hb h => ?_
  obtain ⟨-, ha⟩ := List.mem_filter.mp ha
  obtain ⟨-, hb⟩ := List.mem_filter.mp hb
  simp only [decide_eq_true_eq] at ha hb
  obtain ⟨hg, hsource, htarget⟩ := ha
  obtain ⟨hg', hsource', htarget'⟩ := hb
  obtain ⟨ht, hp⟩ := Prod.mk.inj (hsource.trans hsource'.symm)
  obtain ⟨ht', hp'⟩ := Prod.mk.inj (htarget.trans htarget'.symm)
  exact ⟨h.source (hg.trans hg'.symm) ht hp, h.target ht' hp'⟩

/-- Of two copies one comes first. -/
theorem Ledger.precedes_or (hl : Ledger c f) (ha : a ∈ f.copies) (hb : b ∈ f.copies) :
    a = b ∨ a.Precedes b ∨ b.Precedes a := by
  exact List.Pairwise.forall_of_forall_of_flip
    (R := fun a b => a = b ∨ a.Precedes b ∨ b.Precedes a) (fun _ _ => .inl rfl)
    (hl.ordered.imp fun h => .inr (.inl h)) (hl.ordered.imp fun h => .inr (.inr h)) ha hb

theorem Ledger.offset_lt_iff (hl : Ledger c f) (ha : a ∈ f.copies) (hb : b ∈ f.copies)
    (hg : a.group = b.group) (hsource : a.source.log = b.source.log)
    (htarget : a.target.log = b.target.log) :
    a.target.offset < b.target.offset ↔ a.source.offset < b.source.offset := by
  obtain ⟨ht, hp⟩ := Prod.mk.inj hsource
  obtain ⟨ht', hp'⟩ := Prod.mk.inj htarget
  rcases hl.precedes_or ha hb with rfl | h | h
  · simp
  · exact ⟨fun _ => h.source hg ht hp, fun _ => h.target ht' hp'⟩
  · have hs := h.source hg.symm ht.symm hp.symm
    have ht := h.target ht'.symm hp'.symm
    omega

/-! ### From stage to stage -/

/-- A copy on a stage that is entered once is one of a record on the stage before it. -/
theorem Ledger.of_target (hl : Ledger c f) (hc : c.Built) (he : (e, configuration) ∈ c.endpoints)
    (hm : main ∈ e.topics) (hs : configuration.chain.EnteredOnce k s) (ha : a ∈ f.copies)
    (ht : a.target.topic = s.topicFor main) :
    ∃ j s', k = j + 1 ∧ configuration.chain.EnteredOnce j s' ∧ a.Enters e main s' s := by
  obtain ⟨spec, draw, hbuild⟩ := hc.planned he
  have hk := ChainSpec.getElem?_stages hbuild hs.position
  obtain ⟨p, route, stage, hlead⟩ := hl.leads a ha
  have hpost : { p with stage } = (⟨e, configuration, main, s⟩ : Post) :=
    hc.eq_of_topic hlead.mem_target
      (Container.mem_posts.mpr ⟨he, hm, List.mem_of_getElem? hk⟩) (hlead.target.symm.trans ht)
  obtain ⟨endpoint, configuration', main', current⟩ := p
  simp only [Post.mk.injEq] at hpost
  obtain ⟨rfl, rfl, rfl, rfl⟩ := hpost
  have hcurrent := (Container.mem_posts.mp hlead.mem).2.2
  have hoffers := hlead.offers
  have hleads := hlead.leadsTo
  cases hoffers with
  | retry h =>
      -- a retry leads to the stage after the record's
      cases hleads
      obtain ⟨hrole, j, hj, hnext⟩ := ChainSpec.of_retryAfter? hbuild rfl hcurrent h hs.role
      have hj' := ChainSpec.getElem?_stages hbuild (k := j + 1) hnext
      exact ⟨j, current, (ChainSpec.build_eq_ok hbuild).2.1.eq_of_suffix hk hj' rfl, ⟨hj, hrole⟩,
        hlead.group.symm, hlead.source.symm, hlead.partition⟩
  | deadLetter _ hd =>
      cases hleads
      rw [ChainSpec.not_isDeadLetter hbuild (List.mem_of_getElem? hs.position)] at hd
      cases hd
  | discard _ => cases hleads

/-- A record of a main topic that was passed on to a stage that is entered once was published
there, or it has a copy there from the stage before it. -/
theorem Ledger.forwards_cases (hl : Ledger c f) (hc : c.Built)
    (he : (e, configuration) ∈ c.endpoints) (hm : main ∈ e.topics)
    (hs : configuration.chain.EnteredOnce k s) (h : f.Forwards main partition s x y) :
    k = 0 ∧ y = x ∨ ∃ a ∈ f.copies, a.target = y ∧ ∃ j s', k = j + 1 ∧
      configuration.chain.EnteredOnce j s' ∧ a.Enters e main s' s ∧
      f.Forwards main partition s' x a.source := by
  rcases h.reaches.cases_tail with rfl | ⟨z, hz, a, ha, rfl, rfl⟩
  · -- a main topic is that of the main stage
    obtain ⟨spec, draw, hbuild⟩ := hc.planned he
    have hk := ChainSpec.getElem?_stages hbuild hs.position
    obtain ⟨p, hp, htopic, -, -, hstage⟩ := hc.exists_post he hm
    have hpost : p = ⟨e, configuration, main, s⟩ :=
      hc.eq_of_topic hp (Container.mem_posts.mpr ⟨he, hm, List.mem_of_getElem? hk⟩)
        (htopic.trans ((congrArg Prod.fst h.source).symm.trans h.target))
    have hmain : configuration.chain.main = s := hstage.symm.trans (congrArg Post.stage hpost)
    exact .inl ⟨(ChainSpec.build_eq_ok hbuild).2.1.eq_of_suffix hk (j := 0) rfl
      (congrArg Stage.suffix hmain.symm), rfl⟩
  · obtain ⟨j, s', hj, hs', henters⟩ := hl.of_target hc he hm hs ha h.target
    exact .inr ⟨a, ha, rfl, j, s', hj, hs', henters, h.source, hz, henters.source⟩

/-- **Order on the way** through stages that are entered once and preserve a partition. -/
theorem Ledger.forwards (hl : Ledger c f) (hc : c.Built) (he : (e, configuration) ∈ c.endpoints)
    (hm : main ∈ e.topics)
    (hpart : ∀ s ∈ configuration.chain.stages, (partition : Int) < s.creation.partitions)
    (hs : configuration.chain.EnteredOnce k s) (h : f.Forwards main partition s x y)
    (h' : f.Forwards main partition s x' y') :
    y.partition = partition ∧ y'.partition = partition ∧
      (y.offset < y'.offset ↔ x.offset < x'.offset) := by
  induction k generalizing s y y' with
  | zero =>
      have start : ∀ {x y : Place}, f.Forwards main partition s x y → y = x := by
        intro x y h
        rcases hl.forwards_cases hc he hm hs h with ⟨-, e⟩ | ⟨_, -, -, _, _, hj, -⟩
        · exact e
        · cases hj
      obtain rfl := start h
      obtain rfl := start h'
      exact ⟨congrArg Prod.snd h.source, congrArg Prod.snd h'.source, Iff.rfl⟩
  | succ k ih =>
      rcases hl.forwards_cases hc he hm hs h with ⟨hk, -⟩ | ⟨a, ha, rfl, j, s', hj, hs', hin, hz⟩
      · cases hk
      rcases hl.forwards_cases hc he hm hs h' with
        ⟨hk, -⟩ | ⟨b, hb, rfl, j', s'', hj', hs'', hin', hz'⟩
      · cases hk
      cases hj
      cases hj'
      obtain rfl : s' = s'' := Option.some.inj (hs'.position.symm.trans hs''.position)
      obtain ⟨hp, hp', hiff⟩ := ih hs' hz hz'
      have hmem : s ∈ configuration.chain.stages := by
        obtain ⟨spec, draw, hbuild⟩ := hc.planned he
        exact List.mem_of_getElem? (ChainSpec.getElem?_stages hbuild hs.position)
      -- both copies stay in the partition, so that they are between the same logs
      have stays : s.preservedPartition partition = some (partition : Int) :=
        if_pos ⟨Int.natCast_nonneg _, hpart s hmem⟩
      have hq := Int.ofNat_inj.mp (hin.partition _ (by rw [hp]; exact stays))
      have hq' := Int.ofNat_inj.mp (hin'.partition _ (by rw [hp']; exact stays))
      refine ⟨hq.symm, hq'.symm, ?_⟩
      rw [← hiff]
      refine hl.offset_lt_iff ha hb (hin.group.trans hin'.group.symm) ?_ ?_
      · exact Prod.ext (hin.source.trans hin'.source.symm) (hp.trans hp'.symm)
      · exact Prod.ext (h.target.trans h'.target.symm) (hq.symm.trans hq')

/-- **Order**, whatever the workers of a container do and in whatever order. -/
theorem run_keepsOrder (hc : c.Built) (moves : List Move) : KeepsOrder c (run c moves) where
  entry_iff := (ledger_run hc moves).entry_iff
  kept a ha := ((ledger_run hc moves).kept a ha).1
  once := (ledger_run hc moves).once
  between := (ledger_run hc moves).between
  forwards e configuration he main hm partition hpart s hs hretry hrole x x' y y' h h' := by
    have hmem : s ∈ configuration.chain.retries := List.mem_filter.mpr ⟨hs, hretry⟩
    obtain ⟨k, hk⟩ := List.getElem?_of_mem (List.mem_cons_of_mem configuration.chain.main hmem)
    exact (ledger_run hc moves).forwards hc he hm hpart ⟨hk, hrole⟩ h h'

/-- Two records that failed are passed on in their order. -/
theorem run_keepsOrder_once :
    Container.once.Built ∧
    ((run .once (failures 2)).between "g" ("orders", 0) ("orders-retry-0", 0)).length = 2 ∧
    ((run .once (failures 2)).between "g" ("orders", 0) ("orders-retry-0", 0)).Pairwise fun a b =>
      a.source.offset < b.source.offset ∧ a.target.offset < b.target.offset :=
  ⟨Container.built_once, by decide +kernel,
    (run_keepsOrder Container.built_once (failures 2)).between ..⟩

end Fleet

end Redelivery
