import Mathlib.Logic.Relation
import Redelivery.Proofs.Fleet.Ledger

/-!
# Fleet — passing on

A record is passed on from stage to stage by copies (`Fleet.Reaches`).

**Tips.**  Every record was passed on to a place whose record has no copy (`exists_tip`), and to
one such place only (`tip_unique`).  It stays on posts of the container (`post_of_reaches`).
-/

namespace Redelivery

namespace Fleet

/-- A record was passed on from a place to another by some number of copies. -/
def Reaches (f : Fleet) : Place → Place → Prop :=
  Relation.ReflTransGen fun x y => ∃ a ∈ f.copies, a.source = x ∧ a.target = y

variable {c : Container} {f : Fleet} {x y : Place}

/-- In a list of copies none of which appeared before its source, every record was passed on to
somewhere. -/
theorem exists_tip {l : List Copy} (hord : l.Pairwise Copy.Precedes)
    (hne : ∀ a ∈ l, a.target ≠ a.source) (x : Place) :
    ∃ y, Relation.ReflTransGen (fun x y => ∃ a ∈ l, a.source = x ∧ a.target = y) x y ∧
      y ∉ l.map Copy.source := by
  induction l using List.reverseRecOn with
  | nil => exact ⟨x, .refl, by simp⟩
  | append_singleton l a ih =>
      obtain ⟨hord', -, hlast⟩ := List.pairwise_append.mp hord
      obtain ⟨y, hxy, hy⟩ := ih hord' fun b hb => hne b (List.mem_append_left _ hb)
      have hmono : Relation.ReflTransGen
          (fun x y => ∃ b ∈ l ++ [a], b.source = x ∧ b.target = y) x y :=
        Relation.ReflTransGen.mono
          (fun u v ⟨b, hb, h⟩ => ⟨b, List.mem_append_left [a] hb, h⟩) x y hxy
      by_cases hya : y = a.source
      · -- the last copy is of the tip, and its place is new to all copies before
        refine ⟨a.target, hmono.tail ⟨a, by simp, hya.symm, rfl⟩, fun h => ?_⟩
        rcases mem_map_concat.mp h with h | h
        · obtain ⟨b, hb, e⟩ := List.mem_map.mp h
          exact (hlast b hb a (List.mem_singleton_self a)).fresh e.symm
        · exact hne a (by simp) h
      · refine ⟨y, hmono, fun h => ?_⟩
        rcases mem_map_concat.mp h with h | h
        · exact hy h
        · exact hya h

theorem Ledger.exists_tip (hl : Ledger c f) (x : Place) :
    ∃ y, f.Reaches x y ∧ y ∉ f.copies.map Copy.source :=
  Fleet.exists_tip hl.ordered (fun a ha => (hl.kept a ha).2) x

/-- A record was passed on to one place only that has no copy. -/
theorem Ledger.tip_unique (hl : Ledger c f) {y' : Place} (h : f.Reaches x y)
    (hy : y ∉ f.copies.map Copy.source) (h' : f.Reaches x y')
    (hy' : y' ∉ f.copies.map Copy.source) : y = y' := by
  -- a record has one copy at most, so that of two ways from it one goes on from the other
  have hu : Relator.RightUnique fun x y => ∃ a ∈ f.copies, a.source = x ∧ a.target = y := by
    rintro x y z ⟨a, ha, hax, rfl⟩ ⟨b, hb, hbx, rfl⟩
    rw [List.inj_on_of_nodup_map hl.once ha hb (hax.trans hbx.symm)]
  have stuck : ∀ {u v}, f.Reaches u v → u ∉ f.copies.map Copy.source → u = v := by
    intro u v huv hu
    rcases huv.cases_head with e | ⟨z, ⟨a, ha, e, -⟩, -⟩
    · exact e
    · exact absurd (List.mem_map.mpr ⟨a, ha, e⟩) hu
  rcases Relation.ReflTransGen.total_of_right_unique hu h h' with h | h
  · exact stuck h hy
  · exact (stuck h hy').symm

/-- What a record of a post was passed on to is on a post. -/
theorem Ledger.post_of_reaches (hl : Ledger c f) {p : Post} (hp : p ∈ c.posts)
    (hx : p.topic = x.topic) (h : f.Reaches x y) : ∃ q ∈ c.posts, q.topic = y.topic := by
  induction h with
  | refl => exact ⟨p, hp, hx⟩
  | tail _ hstep _ =>
      obtain ⟨a, ha, -, rfl⟩ := hstep
      obtain ⟨q, route, stage, hlead⟩ := hl.leads a ha
      exact ⟨{ q with stage }, hlead.mem_target, hlead.target.symm⟩

theorem Ledger.entry_of_reaches (hl : Ledger c f) (hx : (f.broker.entryAt? x).isSome)
    (h : f.Reaches x y) : (f.broker.entryAt? y).isSome := by
  induction h with
  | refl => exact hx
  | tail _ hstep _ =>
      obtain ⟨a, ha, -, rfl⟩ := hstep
      exact (hl.entry_iff _).mpr (List.mem_append_right _ (List.mem_map_of_mem ha))

end Fleet

end Redelivery
