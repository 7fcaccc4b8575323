import Mathlib.Data.List.Pairwise
import Mathlib.Tactic.ByContra
import Redelivery.Proofs.Chain.Shape

/-!
# Chain — the rule for a failure

Rules for dead letters are accepted if no kind is in two of them (`RoutingRule.Apart`,
`ofList_eq_ok_iff`).  The rule for a failure is the one that contains the kind of the outermost
level that any rule names, among the levels that are looked at (`Routing.Concerns`).

The first rule that contains a kind is then the only one, so that a look-up finds the rule for a
failure if there is one (`suffixFor?_eq_some_iff`), and there is no other (`Concerns.unique`).
-/

namespace Redelivery

/-- The levels of a failure that a decision looks at: all of them, or the outermost one. -/
def Failure.lookedAt (f : Failure) (traverse : Bool) : List Level :=
  if traverse then f.levels else [f.top]

theorem Failure.inspected_eq (f : Failure) (traverse : Bool) :
    f.inspected traverse = (f.lookedAt traverse).map Level.kind := by
  cases traverse <;> rfl

/-- Two rules share no kind. -/
def RoutingRule.Apart (a b : RoutingRule) : Prop := ∀ kind ∈ a.kinds, kind ∉ b.kinds

instance : Std.Symm RoutingRule.Apart := ⟨fun _ _ h kind hb ha => h kind ha hb⟩

namespace Routing

/-- Some rule contains the kind. -/
def Names (rules : List RoutingRule) (kind : String) : Prop := ∃ rule ∈ rules, kind ∈ rule.kinds

/-- The rule contains the kind of the outermost level that any rule names. -/
structure Concerns (rules : List RoutingRule) (levels : List Level) (rule : RoutingRule) :
    Prop where
  mem : rule ∈ rules
  outermost : ∃ above level below, levels = above ++ level :: below ∧ level.kind ∈ rule.kinds ∧
    ∀ l ∈ above, ¬ Names rules l.kind

/-! ### Accepting rules -/

theorem overlap?_eq_none_iff {a b : RoutingRule} : overlap? a b = none ↔ a.Apart b := by
  simp only [overlap?, Option.map_eq_none_iff, List.find?_eq_none, NameSet.contains_iff]
  rfl

theorem firstOverlap_eq_none_iff {rules : List RoutingRule} :
    firstOverlap rules = none ↔ rules.Pairwise RoutingRule.Apart := by
  induction rules with
  | nil => simp [firstOverlap]
  | cons a rules ih =>
      have hhead : rules.findSome? (overlap? a) = none ↔ ∀ b ∈ rules, a.Apart b := by
        simp [overlap?_eq_none_iff]
      rw [List.pairwise_cons, ← ih, ← hhead, firstOverlap]
      cases rules.findSome? (overlap? a) with
      | none => simp
      | some found => simp

/-- **Rules are accepted** if no kind is in two of them. -/
theorem ofList_eq_ok_iff {rules : List RoutingRule} {routing : Routing} :
    ofList rules = .ok routing ↔ routing = ⟨rules⟩ ∧ rules.Pairwise RoutingRule.Apart := by
  rw [← firstOverlap_eq_none_iff, ofList]
  cases firstOverlap rules with
  | none => simp [eq_comm]
  | some found => simp

/-! ### Looking up a rule -/

theorem suffixOf?_eq_none_iff {rules : List RoutingRule} {kind : String} :
    suffixOf? ⟨rules⟩ kind = none ↔ ¬ Names rules kind := by
  simp [suffixOf?, Names, NameSet.contains_iff]

section

variable {rules : List RoutingRule} (hrules : rules.Pairwise RoutingRule.Apart)
include hrules

/-- A kind is in one rule at most. -/
theorem eq_of_mem_kinds {a b : RoutingRule} {kind : String} (ha : a ∈ rules) (hb : b ∈ rules)
    (hka : kind ∈ a.kinds) (hkb : kind ∈ b.kinds) : a = b := by
  by_contra hne
  exact hrules.forall ha hb hne kind hka hkb

theorem suffixOf?_eq_some_iff {kind suffix : String} :
    suffixOf? ⟨rules⟩ kind = some suffix ↔
      ∃ rule ∈ rules, kind ∈ rule.kinds ∧ rule.suffix = suffix := by
  rw [suffixOf?, Option.map_eq_some_iff]
  constructor
  · rintro ⟨rule, h, hs⟩
    have hk : kind ∈ rule.kinds := by simpa [NameSet.contains_iff] using List.find?_some h
    exact ⟨rule, List.mem_of_find?_eq_some h, hk, hs⟩
  · rintro ⟨rule, hmem, hk, hs⟩
    refine ⟨rule, find?_eq_of_unique hmem (NameSet.contains_iff.mpr hk) fun other ho hk' => ?_, hs⟩
    exact eq_of_mem_kinds hrules ho hmem (NameSet.contains_iff.mp hk') hk

/-- **The rule for a failure** is found. -/
theorem suffixFor?_eq_some_iff {f : Failure} {traverse : Bool} {suffix : String} :
    suffixFor? ⟨rules⟩ f traverse = some suffix ↔
      ∃ rule, Concerns rules (f.lookedAt traverse) rule ∧ rule.suffix = suffix := by
  rw [suffixFor?, f.inspected_eq, List.findSome?_map, List.findSome?_eq_some_iff]
  simp only [Function.comp_apply, suffixOf?_eq_none_iff, suffixOf?_eq_some_iff hrules]
  -- the search stops at the first level that a rule names, which is the outermost one
  constructor
  · rintro ⟨above, level, below, hl, ⟨rule, hmem, hk, hs⟩, habove⟩
    exact ⟨rule, ⟨hmem, above, level, below, hl, hk, habove⟩, hs⟩
  · rintro ⟨rule, ⟨hmem, above, level, below, hl, hk, habove⟩, hs⟩
    exact ⟨above, level, below, hl, ⟨rule, hmem, hk, hs⟩, habove⟩

/-- Only one rule is for a failure. -/
theorem Concerns.unique {levels : List Level} {a b : RoutingRule} (ha : Concerns rules levels a)
    (hb : Concerns rules levels b) : a = b := by
  obtain ⟨hma, above, level, below, rfl, hka, habove⟩ := ha
  obtain ⟨hmb, above', level', below', heq, hkb, habove'⟩ := hb
  -- the level that decides is the first one that is named, and so the same for both
  rcases List.append_eq_append_iff.mp heq with ⟨between, hab, hbel⟩ | ⟨between, hab, hbel⟩
  · cases between with
    | nil =>
        obtain ⟨rfl, -⟩ := List.cons.inj hbel
        exact eq_of_mem_kinds hrules hma hmb hka hkb
    | cons l between =>
        obtain ⟨rfl, -⟩ := List.cons.inj hbel
        exact absurd ⟨a, hma, hka⟩ (habove' level (by simp [hab]))
  · cases between with
    | nil =>
        obtain ⟨rfl, -⟩ := List.cons.inj hbel
        exact eq_of_mem_kinds hrules hma hmb hka hkb
    | cons l between =>
        obtain ⟨rfl, -⟩ := List.cons.inj hbel
        exact absurd ⟨b, hmb, hkb⟩ (habove level' (by simp [hab]))

end

theorem suffixFor?_eq_none_iff {rules : List RoutingRule} {f : Failure} {traverse : Bool} :
    suffixFor? ⟨rules⟩ f traverse = none ↔
      ∀ level ∈ f.lookedAt traverse, ¬ Names rules level.kind := by
  rw [suffixFor?, f.inspected_eq]
  simp [suffixOf?_eq_none_iff]

/-- Which rule is for a failure does not depend on the order of the rules. -/
theorem concerns_perm {rules rules' : List RoutingRule} (h : rules.Perm rules')
    {levels : List Level} {rule : RoutingRule} :
    Concerns rules levels rule ↔ Concerns rules' levels rule := by
  have hnames : ∀ kind, Names rules kind ↔ Names rules' kind := fun kind => by
    simp only [Names, h.mem_iff]
  constructor
  · rintro ⟨hmem, above, level, below, hl, hk, habove⟩
    exact ⟨h.mem_iff.mp hmem, above, level, below, hl, hk,
      fun l hl => mt (hnames l.kind).mpr (habove l hl)⟩
  · rintro ⟨hmem, above, level, below, hl, hk, habove⟩
    exact ⟨h.mem_iff.mpr hmem, above, level, below, hl, hk,
      fun l hl => mt (hnames l.kind).mp (habove l hl)⟩

end Routing

end Redelivery
