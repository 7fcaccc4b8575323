import Redelivery.Proofs.Pattern.Engines

/-!
# Pattern — anchors

A pattern with a regular expression is for whole names.  It is made from the expression as a text:
the body is put in a group, and the group between the two ends of the name
(`TopicPattern.anchored`).  The engine is given that text and no other, so it alone decides which
patterns there are (`Anchors.accepted`, `Anchors.refused`).

**A body that is an expression by itself** makes the pattern that is meant: for every engine with
what is documented, it admits a name just if the expression describes the name from its first to
its last character (`Anchors.whole`).

**A body that is none** may make a pattern too.  If a parenthesis in it stands alone, then this ends
the group that was to hold the body, and a name may be admitted of which only the beginning or the
end is described (`isMatch_unanchored`).
-/

namespace Redelivery.TopicPattern

open Regex (Engine engine Expr documented_engine)

section

variable {E : Engine} {spans : E.Program → String → Nat → Nat → Prop}
variable {raw body : String} {fallback : PatternKind} {caseSensitive : Bool}

/-- The body stands behind the prefix, or the whole text is the body. -/
theorem eq_of_split (h : split fallback raw = (.regex, body)) :
    raw = "regex:" ++ body ∨ fallback = .regex ∧ raw = body := by
  unfold split at h
  split at h
  · cases h
  · rename_i hregex
    cases h
    exact .inl (Text.dropPrefix?_eq_some_iff.mp hregex)
  · cases h
  · cases h
    exact .inr ⟨rfl, rfl⟩

theorem parse_eq_ok_iff (h : split fallback raw = (.regex, body)) {p : TopicPattern E.Program} :
    parse E raw fallback caseSensitive = .ok p ↔
      ∃ program, E.build (!caseSensitive) (anchored body) = .ok program ∧ p = .regex program := by
  unfold parse
  rw [h]
  cases hbuild : E.build (!caseSensitive) (anchored body) with
  | ok program => simp [hbuild, eq_comm]
  | error reason => simp [hbuild]

theorem parse_eq_error_iff (h : split fallback raw = (.regex, body)) {e : ConfigurationError} :
    parse E raw fallback caseSensitive = .error e ↔
      ∃ reason, E.build (!caseSensitive) (anchored body) = .error reason ∧
        e = .invalidPattern raw (.regex reason) := by
  unfold parse
  rw [h]
  cases hbuild : E.build (!caseSensitive) (anchored body) with
  | ok program => simp [hbuild]
  | error reason => simp [hbuild, eq_comm]

/-- **Between the anchors** an expression matches a text just if it matches the whole of it. -/
theorem isMatch_anchored (hE : E.Documented spans) {ic : Bool} {own program : E.Program}
    (hown : E.build ic body = .ok own) (hprogram : E.build ic (anchored body) = .ok program)
    (text : String) : E.isMatch program text = true ↔ spans own text 0 text.length := by
  obtain ⟨first, group, last, hfirst, hgroup, hlast, hrow⟩ := hE.row hown hprogram
  rw [hE.isMatch_iff]
  simp only [hrow, hE.start hfirst, hE.stop hlast, hE.group hown hgroup]
  constructor
  · rintro ⟨i, j, k, l, ⟨-, rfl⟩, h, rfl, -⟩
    exact h
  · intro h
    exact ⟨0, text.length, 0, text.length, ⟨rfl, rfl⟩, h, rfl, rfl⟩

end

/-- What can be said of a text that describes a pattern by a regular expression. -/
structure Anchors (E : Engine) (spans : E.Program → String → Nat → Nat → Prop) (raw : String)
    (fallback : PatternKind) (caseSensitive : Bool) (body : String) : Prop where
  /-- The text is marked as a regular expression, or it is taken for one by default. -/
  written : raw = "regex:" ++ body ∨ fallback = .regex ∧ raw = body
  /-- A body that is an expression by itself has to match the whole name. -/
  whole : ∀ own p, E.build (!caseSensitive) body = .ok own →
    parse E raw fallback caseSensitive = .ok p →
      ∀ topic, p.isMatch E topic = true ↔ spans own topic 0 topic.length
  /-- Whether there is a pattern is a matter of the body between the anchors, and of that alone. -/
  accepted : (∃ p, parse E raw fallback caseSensitive = .ok p) ↔
    ∃ program, E.build (!caseSensitive) (anchored body) = .ok program
  /-- The reason for which there is none is the engine's. -/
  refused : ∀ e, parse E raw fallback caseSensitive = .error e ↔
    ∃ reason, E.build (!caseSensitive) (anchored body) = .error reason ∧
      e = .invalidPattern raw (.regex reason)

/-- **Every pattern** with a regular expression. -/
theorem anchors_parse {E : Engine} {spans : E.Program → String → Nat → Nat → Prop}
    (hE : E.Documented spans) {raw body : String} {fallback : PatternKind}
    (hsplit : split fallback raw = (.regex, body)) (caseSensitive : Bool) :
    Anchors E spans raw fallback caseSensitive body where
  written := eq_of_split hsplit
  whole own p hown hparse topic := by
    obtain ⟨program, hprogram, rfl⟩ := (parse_eq_ok_iff hsplit).mp hparse
    exact isMatch_anchored hE hown hprogram topic
  accepted := by
    simp only [parse_eq_ok_iff hsplit]
    constructor
    · rintro ⟨_, program, h, -⟩
      exact ⟨program, h⟩
    · rintro ⟨program, h⟩
      exact ⟨.regex program, program, h, rfl⟩
  refused _ := parse_eq_error_iff hsplit

/-- A body with two alternatives, which is an expression by itself. -/
theorem anchors_alternatives : ∃ own p, engine.build false "a|b" = .ok own ∧
    parse engine "regex:a|b" .exact true = .ok p ∧
      (∀ topic, p.isMatch engine topic = true ↔ Expr.SpansIn own topic 0 topic.length) ∧
        p.isMatch engine "a" = true ∧ p.isMatch engine "ax" = false := by
  have h := anchors_parse documented_engine
    (show split .exact "regex:a|b" = (.regex, "a|b") by decide) true
  refine ⟨_, _, rfl, rfl, h.whole _ _ rfl rfl, ?_⟩
  decide +kernel

/-- Two alternatives of which each is anchored on one side only. -/
theorem isMatch_unanchored : ∃ p, parse engine "regex:a)|(b" .exact true = .ok p ∧
    p.isMatch engine "ax" = true ∧ p.isMatch engine "xb" = true ∧
      engine.build false "a)|(b" = .error Regex.Flaw.strayParenthesis.message := by
  refine ⟨_, rfl, ?_, ?_, rfl⟩ <;> decide +kernel

end Redelivery.TopicPattern
