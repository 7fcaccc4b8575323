/-!
# Text — Affix

Texts that begin or end with a given text.  A topic name is a main topic followed by a stage's
suffix, and a pattern may carry its kind in front, so both ends are taken off by name.  The main
statements say that what is left is exactly the other part (`dropPrefix?_eq_some_iff`,
`dropSuffix?_eq_some_iff`).
-/

namespace Redelivery.Text

/-- What follows `start` in `s`, if `s` begins with it. -/
def dropPrefix? (s start : String) : Option String :=
  (List.isPrefixOf? start.toList s.toList).map String.ofList

/-- What precedes `stop` in `s`, if `s` ends with it. -/
def dropSuffix? (s stop : String) : Option String :=
  (List.isPrefixOf? stop.toList.reverse s.toList.reverse).map fun r => String.ofList r.reverse

/-- `s` without `stop` at its end, or `s` itself if it does not end so. -/
def withoutSuffix (s stop : String) : String := (dropSuffix? s stop).getD s

theorem isPrefixOf?_eq_some_iff {α : Type} [BEq α] [LawfulBEq α] {p s r : List α} :
    List.isPrefixOf? p s = some r ↔ s = p ++ r := by
  induction p generalizing s with
  | nil =>
      change some s = some r ↔ s = r
      simp
  | cons a p ih =>
      cases s with
      | nil =>
          change none = some r ↔ [] = a :: p ++ r
          simp
      | cons b s =>
          change (if a == b then List.isPrefixOf? p s else none) = some r ↔ b :: s = a :: p ++ r
          by_cases h : a = b
          · subst h
            simp [ih]
          · simp [h, Ne.symm h]

theorem dropPrefix?_eq_some_iff {s start rest : String} :
    dropPrefix? s start = some rest ↔ s = start ++ rest := by
  simp only [dropPrefix?, Option.map_eq_some_iff, isPrefixOf?_eq_some_iff]
  constructor
  · rintro ⟨r, h, rfl⟩
    apply String.toList_inj.mp
    simpa using h
  · rintro rfl
    exact ⟨rest.toList, by simp, by simp⟩

theorem dropSuffix?_eq_some_iff {s stop rest : String} :
    dropSuffix? s stop = some rest ↔ s = rest ++ stop := by
  simp only [dropSuffix?, Option.map_eq_some_iff, isPrefixOf?_eq_some_iff]
  constructor
  · rintro ⟨r, h, rfl⟩
    apply String.toList_inj.mp
    simpa using congrArg List.reverse h
  · rintro rfl
    exact ⟨rest.toList.reverse, by simp, by simp⟩

@[simp] theorem withoutSuffix_append (s stop : String) : withoutSuffix (s ++ stop) stop = s := by
  rw [withoutSuffix, dropSuffix?_eq_some_iff.mpr rfl]
  rfl

end Redelivery.Text
