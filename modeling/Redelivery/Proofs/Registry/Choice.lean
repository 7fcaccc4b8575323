import Mathlib.Data.List.Basic
import Redelivery.Registry

/-!
# Registry — the choice of a configuration

A topic is admitted by a scope that has a pattern for it, or no patterns at all, among those that
are in, and none among those that are out (`Scope.Admits`).  A configuration governs a list of
topics if it admits each of them (`Configuration.Governs`).  A list of topics that one
configuration governs alone is governed by it; topics may each be admitted by some configuration
and still have none that governs all of them.

**Choices** (`decisive_find`).  A lookup picks no winner: it finds a configuration just if this one
governs the topics and no other registration does, and it counts those that do if they are several
(`Registry.Decisive`).  So the order of registration does not matter, and one topic that at most one
configuration admits is enough to keep a lookup from being ambiguous.  A lookup that finds nothing
blames the first topic that nobody admits, if there is one (`Registry.Blames`).
-/

namespace Redelivery

/-- Some pattern lets the topic in, or there is no such pattern, and none keeps it out. -/
def Scope.Admits (s : Scope) (topic : String) : Prop :=
  (s.allowed = [] ∨ ∃ p ∈ s.allowed, p.isMatch Regex.engine topic = true) ∧
    ∀ p ∈ s.denied, p.isMatch Regex.engine topic = false

theorem Scope.admits_iff {s : Scope} {topic : String} :
    s.admits topic = true ↔ s.Admits topic := by
  simp [admits, Admits]

instance (s : Scope) (topic : String) : Decidable (s.Admits topic) :=
  decidable_of_iff _ Scope.admits_iff

/-- Each of the topics is admitted. -/
def Configuration.Governs (c : Configuration) (topics : List String) : Prop :=
  ∀ t ∈ topics, c.scope.Admits t

theorem Configuration.covers_iff {c : Configuration} {topics : List String} :
    c.covers topics = true ↔ c.Governs topics := by
  simp [covers, Scope.admitsAll, Governs, Scope.admits_iff]

instance (c : Configuration) (topics : List String) : Decidable (c.Governs topics) :=
  decidable_of_iff _ Configuration.covers_iff

namespace Registry

variable {r : Registry} {topics : List String} {c : Configuration} {t : String}

/-- How many registrations govern the topics. -/
def governing (r : Registry) (topics : List String) : Nat :=
  r.configurations.countP (·.Governs topics)

/-- One registration of the configuration governs the topics, and no other registration does. -/
def GovernedBy (r : Registry) (topics : List String) (c : Configuration) : Prop :=
  ∃ before after, r.configurations = before ++ c :: after ∧ c.Governs topics ∧
    ∀ other ∈ before ++ after, ¬ other.Governs topics

/-- Some configuration admits the topic. -/
def Known (r : Registry) (t : String) : Prop := ∃ c ∈ r.configurations, c.scope.Admits t

/-- The topic to blame if no configuration governs all of the topics: the first that nobody admits,
or else the first. -/
inductive Blames (r : Registry) (topics : List String) : String → Prop where
  | unknown {before after : List String} {t : String} (hl : topics = before ++ t :: after)
      (ht : ¬ r.Known t) (hbefore : ∀ x ∈ before, r.Known x) : Blames r topics t
  | known (h : ∀ x ∈ topics, r.Known x) : Blames r topics (topics.headD "")

/-! ### What a lookup finds -/

theorem filter_covers (r : Registry) (topics : List String) :
    r.configurations.filter (·.covers topics) =
      r.configurations.filter (·.Governs topics) :=
  List.filter_congr fun c _ => by
    rw [Bool.eq_iff_iff, Configuration.covers_iff, decide_eq_true_iff]

theorem length_filter_covers (r : Registry) (topics : List String) :
    (r.configurations.filter (·.covers topics)).length = r.governing topics := by
  rw [filter_covers, governing, List.countP_eq_length_filter]

/-- A filter leaves one element just if that one passes and none of the others does. -/
theorem filter_eq_singleton_iff {α : Type} {l : List α} {p : α → Bool} {a : α} :
    l.filter p = [a] ↔
      ∃ before after, l = before ++ a :: after ∧ p a = true ∧
        ∀ x ∈ before ++ after, ¬ p x = true := by
  constructor
  · intro h
    obtain ⟨before, after, rfl, hbefore, ha, hafter⟩ := List.filter_eq_cons_iff.mp h
    rw [List.filter_eq_nil_iff] at hafter
    exact ⟨before, after, rfl, ha, fun x hx =>
      (List.mem_append.mp hx).elim (hbefore x) (hafter x)⟩
  · rintro ⟨before, after, rfl, ha, hnone⟩
    have hbefore : before.filter p = [] :=
      List.filter_eq_nil_iff.mpr fun x hx => hnone x (List.mem_append_left _ hx)
    have hafter : after.filter p = [] :=
      List.filter_eq_nil_iff.mpr fun x hx => hnone x (List.mem_append_right _ hx)
    rw [List.filter_append, List.filter_cons_of_pos ha, hbefore, hafter, List.nil_append]

/-- Who governs the topics alone is all that is left of the configurations. -/
theorem governedBy_iff :
    r.GovernedBy topics c ↔ r.configurations.filter (·.covers topics) = [c] := by
  rw [filter_eq_singleton_iff]
  simp only [GovernedBy, Configuration.covers_iff]

theorem find_eq_some_iff : r.find topics = .ok (some c) ↔ r.GovernedBy topics c := by
  rw [governedBy_iff]
  unfold find
  split
  · rename_i h
    simp [h]
  · rename_i h
    simp [h]
  · rename_i h
    exact iff_of_false (by simp) (h c)

theorem find_eq_none_iff : r.find topics = .ok none ↔ r.governing topics = 0 := by
  rw [← length_filter_covers, List.length_eq_zero_iff]
  unfold find
  split <;> simp_all

theorem find_eq_error_iff {e : ConfigurationError} : r.find topics = .error e ↔
    2 ≤ r.governing topics ∧ e = .ambiguousScope topics (r.governing topics) := by
  rw [← length_filter_covers]
  unfold find
  split
  · rename_i h
    simp [h]
  · rename_i h
    simp [h]
  · rename_i cs h₀ h₁
    have hlen : 2 ≤ (r.configurations.filter (·.covers topics)).length := by
      cases hcs : r.configurations.filter (·.covers topics) with
      | nil => exact absurd hcs h₀
      | cons a as =>
          cases as with
          | nil => exact absurd hcs (h₁ a)
          | cons b as => simp
    rw [Except.error.injEq, eq_comm]
    exact (and_iff_right hlen).symm

/-- Nothing governs topics of which one is admitted by nobody. -/
theorem governing_eq_zero_of_not_known (ht : t ∈ topics) (h : ¬ r.Known t) :
    r.governing topics = 0 :=
  List.countP_eq_zero.mpr fun c hc hg =>
    h ⟨c, hc, of_decide_eq_true hg t ht⟩

/-- Governing all topics takes admitting each of them. -/
theorem governing_le (ht : t ∈ topics) :
    r.governing topics ≤ r.configurations.countP (·.scope.Admits t) :=
  List.countP_mono_left fun _ _ hg => decide_eq_true (of_decide_eq_true hg t ht)

/-! ### What a lookup blames -/

theorem blames_uncovered (r : Registry) (topics : List String) :
    r.Blames topics (r.uncovered topics) := by
  have hknown : ∀ x, r.configurations.any (·.scope.admits x) = true ↔ r.Known x := fun x => by
    simp [Known, Scope.admits_iff]
  unfold uncovered
  dsimp only
  cases hfind : topics.find? fun x => !r.configurations.any (·.scope.admits x) with
  | some x =>
      obtain ⟨hx, before, after, hl, hbefore⟩ := List.find?_eq_some_iff_append.mp hfind
      refine .unknown hl (fun hk => ?_) fun y hy => (hknown y).mp ?_
      · simp [(hknown x).mpr hk] at hx
      · simpa using hbefore y hy
  | none =>
      refine .known fun x hx => (hknown x).mp ?_
      simpa using List.find?_eq_none.mp hfind x hx

/-- Only one topic is to blame. -/
theorem Blames.unique {x y : String} (hx : r.Blames topics x) (hy : r.Blames topics y) :
    x = y := by
  cases hx with
  | unknown hl hnot hbefore =>
      rename_i before after
      cases hy with
      | known hall => exact absurd (hall x (by simp [hl])) hnot
      | unknown hl' hnot' hbefore' =>
          -- neither of the two can be among the topics before the other
          rcases List.append_eq_append_iff.mp (hl.symm.trans hl') with
            ⟨between, rfl, hrest⟩ | ⟨between, rfl, hrest⟩
          · cases between with
            | nil => exact (List.cons.inj hrest).1
            | cons z between =>
                obtain ⟨rfl, -⟩ := List.cons.inj hrest
                exact absurd (hbefore' x (by simp)) hnot
          · cases between with
            | nil => exact (List.cons.inj hrest).1.symm
            | cons z between =>
                obtain ⟨rfl, -⟩ := List.cons.inj hrest
                exact absurd (hbefore y (by simp)) hnot'
  | known hall =>
      cases hy with
      | known => rfl
      | unknown hl hnot => exact absurd (hall y (by simp [hl])) hnot

/-- A lookup that must find something finds what a lookup finds, or names the topic to blame. -/
theorem require_eq (r : Registry) (topics : List String) : r.require topics =
    match r.find topics with
    | .error e => .error e
    | .ok (some c) => .ok c
    | .ok none => .error (.unconfiguredTopic (r.uncovered topics)) := by
  unfold require
  cases r.find topics with
  | error e => rfl
  | ok found => cases found <;> rfl

theorem require_eq_ok_iff : r.require topics = .ok c ↔ r.GovernedBy topics c := by
  rw [← find_eq_some_iff, require_eq]
  split <;> simp_all

theorem require_eq_error_iff {e : ConfigurationError} :
    r.require topics = .error e ↔ r.find topics = .error e ∨
      r.governing topics = 0 ∧ ∃ t, r.Blames topics t ∧ e = .unconfiguredTopic t := by
  have hblames : ∀ t, r.Blames topics t ↔ t = r.uncovered topics := fun t =>
    ⟨fun h => h.unique (r.blames_uncovered topics), fun h => h ▸ r.blames_uncovered topics⟩
  simp only [hblames, exists_eq_left, ← find_eq_none_iff]
  rw [require_eq]
  cases r.find topics with
  | error e' => simp
  | ok found =>
      cases found with
      | none => simp [eq_comm]
      | some c => simp

/-! ### The order of registration -/

theorem configurations_foldl_register (r : Registry) (cs : List Configuration) :
    (cs.foldl register r).configurations = r.configurations ++ cs := by
  induction cs generalizing r with
  | nil => simp
  | cons c cs ih =>
      rw [List.foldl_cons, ih, register]
      simp

theorem governing_perm {r' : Registry} (h : r.configurations.Perm r'.configurations)
    (topics : List String) : r.governing topics = r'.governing topics :=
  h.countP_eq _

/-- A lookup finds the same in any order. -/
theorem find_perm {r' : Registry} (h : r.configurations.Perm r'.configurations)
    (topics : List String) : r'.find topics = r.find topics := by
  have hcount := governing_perm h topics
  cases hfound : r.find topics with
  | error e =>
      rw [find_eq_error_iff, hcount] at hfound
      exact find_eq_error_iff.mpr hfound
  | ok found =>
      cases found with
      | none =>
          rw [find_eq_none_iff, hcount] at hfound
          exact find_eq_none_iff.mpr hfound
      | some c =>
          rw [find_eq_some_iff, governedBy_iff] at hfound ⊢
          have hperm := h.filter (·.covers topics)
          rw [hfound, List.singleton_perm] at hperm
          exact hperm.symm

theorem uncovered_perm {r' : Registry} (h : r.configurations.Perm r'.configurations)
    (topics : List String) : r'.uncovered topics = r.uncovered topics := by
  unfold uncovered
  simp only [h.any_eq]

/-! ### All lookups -/

/-- What can be said of a lookup of topics. -/
structure Decisive (r : Registry) (topics : List String) : Prop where
  some_iff : ∀ c, r.find topics = .ok (some c) ↔ r.GovernedBy topics c
  none_iff : r.find topics = .ok none ↔ ∀ c ∈ r.configurations, ¬ c.Governs topics
  /-- Several configurations that govern the topics are counted. -/
  error_iff : ∀ e, r.find topics = .error e ↔
    2 ≤ r.governing topics ∧ e = .ambiguousScope topics (r.governing topics)
  /-- The same configurations registered in another order give the same answers. -/
  order : ∀ cs : List Configuration, cs.Perm r.configurations →
    (cs.foldl register {}).find topics = r.find topics ∧
      (cs.foldl register {}).require topics = r.require topics
  /-- One topic suffices that at most one configuration admits. -/
  unambiguous : (∃ t ∈ topics, r.configurations.countP (·.scope.Admits t) ≤ 1) →
    ∀ e, r.find topics ≠ .error e
  require_ok_iff : ∀ c, r.require topics = .ok c ↔ r.GovernedBy topics c
  require_error_iff : ∀ e, r.require topics = .error e ↔ r.find topics = .error e ∨
    (∀ c ∈ r.configurations, ¬ c.Governs topics) ∧
      ∃ t, r.Blames topics t ∧ e = .unconfiguredTopic t
  /-- The first topic that nobody admits is to blame. -/
  blames_first : ∀ before t after, topics = before ++ t :: after → ¬ r.Known t →
    (∀ x ∈ before, r.Known x) → r.require topics = .error (.unconfiguredTopic t)

theorem governing_eq_zero_iff :
    r.governing topics = 0 ↔ ∀ c ∈ r.configurations, ¬ c.Governs topics := by
  simp [governing, List.countP_eq_zero]

/-- **Every lookup** of topics in a registry. -/
theorem decisive_find (r : Registry) (topics : List String) : r.Decisive topics where
  some_iff _ := find_eq_some_iff
  none_iff := find_eq_none_iff.trans governing_eq_zero_iff
  error_iff _ := find_eq_error_iff
  order cs h := by
    have hcs : r.configurations.Perm (cs.foldl register {}).configurations := by
      rw [configurations_foldl_register]
      exact h.symm
    refine ⟨find_perm hcs topics, ?_⟩
    rw [require_eq, require_eq, find_perm hcs, uncovered_perm hcs]
  unambiguous := by
    rintro ⟨t, ht, hone⟩ e he
    have htwo := (find_eq_error_iff.mp he).1
    have := r.governing_le ht
    omega
  require_ok_iff _ := require_eq_ok_iff
  require_error_iff e := by
    rw [require_eq_error_iff, governing_eq_zero_iff]
  blames_first before t after hl ht hbefore := by
    have hmem : t ∈ topics := by simp [hl]
    have hzero := governing_eq_zero_of_not_known hmem ht
    exact require_eq_error_iff.mpr
      (.inr ⟨hzero, t, .unknown hl ht hbefore, rfl⟩)

end Registry

end Redelivery
