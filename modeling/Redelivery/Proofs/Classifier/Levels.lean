import Redelivery.Classifier

/-!
# Classifier — levels that decide

A classifier goes through the kinds of a failure from the outermost level on
(`Classifier.ruling`), and the first kind that one of its three lists mentions decides: against
another attempt if the kind is fatal or excluded, else for it (`ruling_of_mentions`).  What comes
below that level is not looked at.

**Levels** (`settled_classify`).  Two failures whose kinds agree down to the outermost level that
is mentioned are treated alike (`Classifier.Alike`), and causes only matter if the outermost kind
of all is not mentioned.  A classifier that refuses more kinds (`Classifier.refusing`,
`Classifier.excluding`) refuses every failure that it refused before, whichever level decided
(`Classifier.Stricter`); one that includes more kinds besides some (`Classifier.including`) does
not refuse more (`Classifier.Looser`).  The first kind to be included is another matter: all kinds
that are not mentioned are refused from then on.
-/

namespace Redelivery

namespace NameSet

theorem isEmpty_iff {s : NameSet} : s.isEmpty = true ↔ ∀ a, a ∉ s := by
  simp only [isEmpty, List.isEmpty_iff, List.eq_nil_iff_forall_not_mem]
  rfl

/-- More names leave no set empty that was not. -/
theorem isEmpty_insertAll {s : NameSet} (h : s.isEmpty = false) (as : List String) :
    (s.insertAll as).isEmpty = false := by
  refine Bool.eq_false_iff.mpr fun he => ?_
  have hnone := isEmpty_iff.mp he
  refine Bool.eq_false_iff.mp h (isEmpty_iff.mpr fun a ha => hnone a ?_)
  exact mem_insertAll.mpr (.inr ha)

end NameSet

namespace Classifier

/-- The classifier with more kinds that are fatal for every chain. -/
def refusing (c : Classifier) (kinds : List String) : Classifier :=
  { c with fatal := c.fatal.insertAll kinds }

/-- The classifier with more kinds excluded. -/
def excluding (c : Classifier) (kinds : List String) : Classifier :=
  { c with excluded := c.excluded.insertAll kinds }

/-- The classifier with more kinds included. -/
def including (c : Classifier) (kinds : List String) : Classifier :=
  { c with included := c.included.insertAll kinds }

/-- One of the lists mentions the kind. -/
def Mentions (c : Classifier) (kind : String) : Prop :=
  kind ∈ c.fatal ∨ kind ∈ c.excluded ∨ kind ∈ c.included

/-- The failures have the same kinds, or have the same ones down to a level that is mentioned. -/
def Alike (c : Classifier) (f g : Failure) : Prop :=
  f.kinds = g.kinds ∨ ∃ above kind below below', c.Mentions kind ∧
    f.kinds = above ++ kind :: below ∧ g.kinds = above ++ kind :: below'

/-- What the lists say of kinds that are looked at in order. -/
def ruling (c : Classifier) (kinds : List String) : Classification :=
  (kinds.findSome? c.verdict?).getD c.fallback

theorem classifyWith_eq (c : Classifier) (traverse : Bool) (f : Failure) :
    c.classifyWith traverse f = c.ruling (f.inspected traverse) := rfl

variable {c d : Classifier} {kind : String}

/-! ### One level -/

theorem verdict?_eq_fatal (h : kind ∈ c.fatal ∨ kind ∈ c.excluded) :
    c.verdict? kind = some .fatal := by
  rw [verdict?, if_pos]
  simpa [NameSet.contains_iff] using h

theorem verdict?_eq_retry (h : ¬ (kind ∈ c.fatal ∨ kind ∈ c.excluded)) (hi : kind ∈ c.included) :
    c.verdict? kind = some .retry := by
  rw [verdict?, if_neg, if_pos (NameSet.contains_iff.mpr hi)]
  simpa [NameSet.contains_iff] using h

theorem verdict?_eq_none_iff : c.verdict? kind = none ↔ ¬ c.Mentions kind := by
  by_cases h : kind ∈ c.fatal ∨ kind ∈ c.excluded
  · simp only [verdict?_eq_fatal h, Mentions, ← or_assoc, h, true_or]
    simp
  · by_cases hi : kind ∈ c.included
    · simp [verdict?_eq_retry h hi, Mentions, hi]
    · rw [verdict?, if_neg (by simpa [NameSet.contains_iff] using h),
        if_neg (by simpa [NameSet.contains_iff] using hi)]
      simp only [Mentions, ← or_assoc, h, hi, or_self, not_false_eq_true]

/-! ### Levels in order -/

/-- What is below a level that is mentioned does not matter. -/
theorem ruling_of_mentions (h : c.Mentions kind) (above below below' : List String) :
    c.ruling (above ++ kind :: below) = c.ruling (above ++ kind :: below') := by
  obtain ⟨v, hv⟩ := Option.ne_none_iff_exists'.mp (mt verdict?_eq_none_iff.mp (not_not_intro h))
  simp only [ruling, List.findSome?_append, List.findSome?_cons, hv]

theorem ruling_cons (c : Classifier) (kind : String) (kinds : List String) :
    c.ruling (kind :: kinds) = (c.verdict? kind).getD (c.ruling kinds) := by
  rw [ruling, List.findSome?_cons]
  cases c.verdict? kind <;> rfl

/-- `d` refuses all kinds that `c` refuses, and includes the same ones. -/
structure Stricter (c d : Classifier) : Prop where
  refuses : ∀ kind, kind ∈ c.fatal ∨ kind ∈ c.excluded → kind ∈ d.fatal ∨ kind ∈ d.excluded
  included : d.included = c.included

/-- `d` refuses the same kinds as `c`, and includes all that `c` includes and at least one. -/
structure Looser (c d : Classifier) : Prop where
  fatal : d.fatal = c.fatal
  excluded : d.excluded = c.excluded
  includes : ∀ kind ∈ c.included, kind ∈ d.included
  nonempty : c.included.isEmpty = false
  nonempty' : d.included.isEmpty = false

theorem Stricter.ruling_eq_fatal (h : c.Stricter d) {kinds : List String}
    (hc : c.ruling kinds = .fatal) : d.ruling kinds = .fatal := by
  induction kinds with
  | nil => simpa [ruling, fallback, h.included] using hc
  | cons kind kinds ih =>
      rw [ruling_cons] at hc ⊢
      by_cases hd : kind ∈ d.fatal ∨ kind ∈ d.excluded
      · rw [verdict?_eq_fatal hd, Option.getD_some]
      · -- `c` does not refuse the kind either, so the failure was refused further down
        have hcd := mt (h.refuses kind) hd
        by_cases hi : kind ∈ c.included
        · rw [verdict?_eq_retry hcd hi] at hc
          cases hc
        · have hnone : c.verdict? kind = none := verdict?_eq_none_iff.mpr fun hm =>
            (or_assoc.mpr hm).elim hcd hi
          have hnone' : d.verdict? kind = none := verdict?_eq_none_iff.mpr fun hm =>
            (or_assoc.mpr hm).elim hd (h.included ▸ hi)
          rw [hnone, Option.getD_none] at hc
          rw [hnone', Option.getD_none]
          exact ih hc

theorem Looser.ruling_ne_fatal (h : c.Looser d) {kinds : List String}
    (hc : c.ruling kinds ≠ .fatal) : d.ruling kinds ≠ .fatal := by
  induction kinds with
  | nil => exact absurd (by simp [ruling, fallback, h.nonempty]) hc
  | cons kind kinds ih =>
      rw [ruling_cons] at hc ⊢
      by_cases hr : kind ∈ c.fatal ∨ kind ∈ c.excluded
      · rw [verdict?_eq_fatal hr] at hc
        exact absurd rfl hc
      · have hr' : ¬ (kind ∈ d.fatal ∨ kind ∈ d.excluded) := by rwa [h.fatal, h.excluded]
        by_cases hi : kind ∈ d.included
        · rw [verdict?_eq_retry hr' hi]
          simp
        · -- `c` does not include the kind either, so that the levels below decided
          have hnone : c.verdict? kind = none := verdict?_eq_none_iff.mpr fun hm =>
            (or_assoc.mpr hm).elim hr (mt (h.includes kind) hi)
          have hnone' : d.verdict? kind = none := verdict?_eq_none_iff.mpr fun hm =>
            (or_assoc.mpr hm).elim hr' hi
          rw [hnone, Option.getD_none] at hc
          rw [hnone', Option.getD_none]
          exact ih hc

/-! ### Longer lists -/

theorem stricter_refusing (c : Classifier) (kinds : List String) :
    c.Stricter (c.refusing kinds) where
  refuses _ := Or.imp_left fun h => NameSet.mem_insertAll.mpr (.inr h)
  included := rfl

theorem stricter_excluding (c : Classifier) (kinds : List String) :
    c.Stricter (c.excluding kinds) where
  refuses _ := Or.imp_right fun h => NameSet.mem_insertAll.mpr (.inr h)
  included := rfl

theorem looser_including (h : c.included.isEmpty = false) (kinds : List String) :
    c.Looser (c.including kinds) where
  fatal := rfl
  excluded := rfl
  includes _ h := NameSet.mem_insertAll.mpr (.inr h)
  nonempty := h
  nonempty' := NameSet.isEmpty_insertAll h kinds

/-! ### All failures -/

theorem Alike.kind_eq {f g : Failure} (h : c.Alike f g) : f.kind = g.kind := by
  rcases h with h | ⟨above, kind, below, below', -, hf, hg⟩
  · exact (List.cons.inj h).1
  · cases above with
    | nil => exact (List.cons.inj hf).1.trans (List.cons.inj hg).1.symm
    | cons k above => exact (List.cons.inj hf).1.trans (List.cons.inj hg).1.symm

/-- What can be said of a classifier and of those with longer lists. -/
structure Settled (c : Classifier) : Prop where
  refusing : ∀ kinds traverse f, c.classifyWith traverse f = .fatal →
    (c.refusing kinds).classifyWith traverse f = .fatal
  excluding : ∀ kinds traverse f, c.classifyWith traverse f = .fatal →
    (c.excluding kinds).classifyWith traverse f = .fatal
  including : c.included.isEmpty = false → ∀ kinds traverse f,
    c.classifyWith traverse f ≠ .fatal → (c.including kinds).classifyWith traverse f ≠ .fatal
  /-- Neither messages nor what lies below a level that is mentioned matter. -/
  alike : ∀ f g, c.Alike f g → ∀ traverse, c.classifyWith traverse f = c.classifyWith traverse g
  outermost : ∀ f g : Failure, f.kind = g.kind → c.classifyWith false f = c.classifyWith false g
  traverse : ∀ f : Failure, c.Mentions f.kind → c.classifyWith true f = c.classifyWith false f

/-- **Every classifier** and every failure. -/
theorem settled_classify (c : Classifier) : c.Settled where
  refusing kinds _ _ h := (c.stricter_refusing kinds).ruling_eq_fatal h
  excluding kinds _ _ h := (c.stricter_excluding kinds).ruling_eq_fatal h
  including hc kinds _ _ h := (looser_including hc kinds).ruling_ne_fatal h
  alike f g h traverse := by
    rw [classifyWith_eq, classifyWith_eq]
    cases traverse with
    | false => exact congrArg (fun kind => c.ruling [kind]) h.kind_eq
    | true =>
        rcases h with h | ⟨above, kind, below, below', hm, hf, hg⟩
        · exact congrArg c.ruling h
        · change c.ruling f.kinds = c.ruling g.kinds
          rw [hf, hg]
          exact ruling_of_mentions hm above below below'
  outermost _ _ h := congrArg (fun kind => c.ruling [kind]) h
  traverse _ h := ruling_of_mentions h [] _ []

/-- The first kind to be included leaves all others refused. -/
example : Classifier.classify {} (.new "Io" "reset") = .notConfigured ∧
    (Classifier.including {} ["Timeout"]).classify (.new "Io" "reset") = .fatal := by
  decide

end Classifier

end Redelivery
