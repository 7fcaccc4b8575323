import Redelivery.Pattern.Regex.Engine
import Redelivery.Proofs.Pattern.Groups
import Redelivery.Proofs.Pattern.Spans

/-!
# Pattern — what is documented of an engine

Patterns leave regular expressions to an engine, and rely on what is documented of the few things
that they put together: the signs for the beginning and for the end of a text, a group around an
expression, and these one after the other (`Engine.Documented`).  Of a text that is no expression
by itself nothing is said, nor of which texts are expressions.

**The engine that runs** (`documented_engine`).  Its programs are expressions, and what a program
matches is what the expression describes (`Expr.SpansIn`).  An expression in a group is read as it
is read by itself (`parseFrom_append_closing`).  So it has what is documented.
-/

namespace Redelivery.Regex

/-- What is documented of an engine.  `spans` are the positions from which and up to which a program
matches a text, counted in characters. -/
structure Engine.Documented (E : Engine) (spans : E.Program → String → Nat → Nat → Prop) :
    Prop where
  /-- A search finds a match if there is one in any part of the text. -/
  isMatch_iff : ∀ p text, E.isMatch p text = true ↔ ∃ i j, spans p text i j
  /-- The beginning of the text. -/
  start : ∀ {ic p}, E.build ic "^" = .ok p → ∀ text i j, spans p text i j ↔ i = 0 ∧ j = 0
  /-- The end of the text. -/
  stop : ∀ {ic p}, E.build ic "$" = .ok p →
    ∀ text i j, spans p text i j ↔ i = text.length ∧ j = text.length
  /-- A group matches what the expression in it matches. -/
  group : ∀ {ic body own p}, E.build ic body = .ok own → E.build ic ("(?:" ++ body ++ ")") = .ok p →
    ∀ text i j, spans p text i j ↔ spans own text i j
  /-- What stands one after the other matches one after the other. -/
  row : ∀ {ic body own p}, E.build ic body = .ok own → E.build ic ("^(?:" ++ body ++ ")$") = .ok p →
    ∃ first group last, E.build ic "^" = .ok first ∧
      E.build ic ("(?:" ++ body ++ ")") = .ok group ∧ E.build ic "$" = .ok last ∧
        ∀ text i j, spans p text i j ↔
          ∃ k l, spans first text i k ∧ spans group text k l ∧ spans last text l j

/-! ### Limits -/

theorem Part.limited_eq_ok_iff {p : Part} {e : Expr} :
    p.limited = .ok e ↔ p.depth ≤ depthLimit ∧ p.expr.cost ≤ costLimit ∧ p.expr = e := by
  unfold limited
  split_ifs with hdepth hcost
  · simp [Nat.not_le.mpr hdepth]
  · simp [Nat.not_le.mpr hcost]
  · simp [Nat.not_lt.mp hdepth, Nat.not_lt.mp hcost]

/-- What the engine builds is the expression of a part within the limits. -/
theorem build_eq_ok_iff {ic : Bool} {text : String} {e : Expr} :
    engine.build ic text = .ok e ↔ ∃ p, parse { ignoreCase := ic } text = .ok p ∧
      p.depth ≤ depthLimit ∧ p.expr.cost ≤ costLimit ∧ p.expr = e := by
  simp only [← Part.limited_eq_ok_iff]
  change (parse { ignoreCase := ic } text >>= Part.limited).mapError Flaw.message = .ok e ↔ _
  cases parse { ignoreCase := ic } text with
  | error flaw =>
      refine ⟨nofun, ?_⟩
      rintro ⟨p, h, -⟩
      cases h
  | ok p =>
      change p.limited.mapError Flaw.message = .ok e ↔ _
      cases hp : p.limited with
      | error flaw =>
          refine ⟨nofun, ?_⟩
          rintro ⟨_, ⟨⟩, h⟩
          rw [hp] at h
          cases h
      | ok e' =>
          refine ⟨fun h => ?_, ?_⟩
          · cases h
            exact ⟨p, rfl, hp⟩
          · rintro ⟨_, ⟨⟩, h⟩
            cases hp.symm.trans h
            rfl

/-! ### Groups and anchors -/

/-- A part between the beginning and the end of a text. -/
def Part.whole (p : Part) : Part :=
  ⟨.seq (.look .textStart false) (.seq p.expr (.look .textEnd false)), p.depth + 2⟩

/-- The two signs only add to what a part takes. -/
theorem Part.le_of_whole {p : Part} (hdepth : p.whole.depth ≤ depthLimit)
    (hcost : p.whole.expr.cost ≤ costLimit) :
    p.depth + 1 ≤ depthLimit ∧ p.expr.cost ≤ costLimit := by
  simp only [whole, Expr.cost] at hdepth hcost
  omega

/-- **An expression in a group**, alone and between the two signs.  Either both are read as they are
meant, or a comment takes the end of the group in. -/
theorem parse_group {f : Flags} (hspaced : f.spaced = false) (hline : f.multiLine = false)
    {body : String} {p : Part} (h : parse f body = .ok p) :
    parse f ("(?:" ++ body ++ ")") = .ok ⟨p.expr, p.depth + 1⟩ ∧
        parse f ("^(?:" ++ body ++ ")$") = .ok p.whole ∨
      parse f ("(?:" ++ body ++ ")") = .error .openGroup ∧
        parse f ("^(?:" ++ body ++ ")$") = .error .openGroup := by
  obtain ⟨takenIn, hgoes⟩ := parseFrom_append_closing (Nat.lt_succ_self _) h
  have hskip := skipSpace_of_unspaced hspaced
  have hopening : ∀ cs, token f '(' ('?' :: ':' :: cs) = .ok (.opening (.group f none), cs) := by
    intro cs
    have h : opening f ('?' :: ':' :: cs) = .ok (.group f none, cs) := by
      rw [opening, hskip]
      rfl
    rw [token, h]
    rfl
  -- behind the signs that open it
  have hgroup : ∀ b n k, body.toList.length + 2 < n →
      parseFrom (n + 1) { flags := f, branches := b }
          ('(' :: '?' :: ':' :: (body.toList ++ closing k)) =
        if takenIn then .error .openGroup else .ok ((⟨b, f⟩ : Outer).whole p k) := by
    intro b n k hn
    rw [parseFrom_of_token n (hskip _) (hopening _) rfl]
    exact hgoes ⟨b, f⟩ k n hspaced hline hn
  have hcaret : ∀ cs, token f '^' cs = .ok (.part ⟨.look .textStart false, 0⟩, cs) := by
    intro cs
    simp [token, caret, hline]
  have hplain : parse f ("(?:" ++ body ++ ")") =
      if takenIn then .error .openGroup else .ok ((⟨{}, f⟩ : Outer).whole p false) := by
    have htext : ("(?:" ++ body ++ ")").toList =
        '(' :: '?' :: ':' :: (body.toList ++ closing false) := by
      simp [closing]
    rw [parse, htext]
    exact hgroup {} _ false (by simp [closing])
  have hanchored : parse f ("^(?:" ++ body ++ ")$") =
      if takenIn then .error .openGroup
      else .ok ((⟨{ parts := [some ⟨.look .textStart false, 0⟩] }, f⟩ : Outer).whole p true) := by
    have htext : ("^(?:" ++ body ++ ")$").toList =
        '^' :: '(' :: '?' :: ':' :: (body.toList ++ closing true) := by
      simp [closing]
    rw [parse, htext, parseFrom_of_token _ (hskip _) (hcaret _) rfl]
    exact hgroup _ _ true (by simp [closing])
  cases takenIn with
  | false =>
      refine .inl ⟨hplain.trans ?_, hanchored.trans ?_⟩
      · simp [Outer.whole, Branches.add, Branches.finish, rowOf]
      · simp [Outer.whole, Branches.add, Branches.finish, rowOf, Part.whole]
  | true => exact .inr ⟨hplain, hanchored⟩

/-! ### The engine that runs -/

theorem build_start (ic : Bool) : engine.build ic "^" = .ok (.look .textStart false) := by
  cases ic <;> rfl

theorem build_stop (ic : Bool) : engine.build ic "$" = .ok (.look .textEnd false) := by
  cases ic <;> rfl

/-- The characters of a text. -/
theorem size_chars (text : String) :
    (text.toList.map Char.toNat).toArray.size = text.length := by
  simp [String.length_toList]

theorem spansIn_start (text : String) (i j : Nat) :
    (Expr.look .textStart false).SpansIn text i j ↔ i = 0 ∧ j = 0 := by
  have hsize := size_chars text
  simp only [Expr.SpansIn, Expr.Spans, Look.holds, before, Option.isNone_iff_eq_none]
  constructor
  · rintro ⟨hj, rfl, h⟩
    split_ifs at h with hi
    · exact ⟨hi, hi⟩
    · rw [Array.getElem?_eq_none_iff] at h
      omega
  · rintro ⟨rfl, rfl⟩
    exact ⟨Nat.zero_le _, rfl, if_pos rfl⟩

theorem spansIn_stop (text : String) (i j : Nat) :
    (Expr.look .textEnd false).SpansIn text i j ↔ i = text.length ∧ j = text.length := by
  have hsize := size_chars text
  simp only [Expr.SpansIn, Expr.Spans, Look.holds, Option.isNone_iff_eq_none,
    Array.getElem?_eq_none_iff, hsize]
  omega

theorem Part.spansIn_whole (p : Part) (text : String) (i j : Nat) : p.whole.expr.SpansIn text i j ↔
    ∃ k l, (Expr.look .textStart false).SpansIn text i k ∧ p.expr.SpansIn text k l ∧
      (Expr.look .textEnd false).SpansIn text l j := by
  constructor
  · rintro ⟨hj, k, hstart, l, hbody, hstop⟩
    have hl := hbody.le
    have hj' := hstop.le
    exact ⟨k, l, ⟨by omega, hstart⟩, ⟨by omega, hbody⟩, hj, hstop⟩
  · rintro ⟨k, l, ⟨-, hstart⟩, ⟨-, hbody⟩, hj, hstop⟩
    exact ⟨hj, k, hstart, l, hbody, hstop⟩

/-- **The engine that runs** has what is documented. -/
theorem documented_engine : engine.Documented Expr.SpansIn where
  isMatch_iff _ _ := isMatch_iff
  start {ic p} h := by
    cases (build_start ic).symm.trans h
    exact spansIn_start
  stop {ic p} h := by
    cases (build_stop ic).symm.trans h
    exact spansIn_stop
  group {ic body own p} hown hbuild text i j := by
    obtain ⟨q, hq, -, -, rfl⟩ := build_eq_ok_iff.mp hown
    obtain ⟨q', hq', -, -, rfl⟩ := build_eq_ok_iff.mp hbuild
    rcases parse_group rfl rfl hq with ⟨hgroup, -⟩ | ⟨hrefused, -⟩
    · cases hgroup.symm.trans hq'
      rfl
    · cases hrefused.symm.trans hq'
  row {ic body own p} hown hbuild := by
    obtain ⟨q, hq, -, -, -⟩ := build_eq_ok_iff.mp hown
    obtain ⟨q', hq', hdepth, hcost, rfl⟩ := build_eq_ok_iff.mp hbuild
    rcases parse_group rfl rfl hq with ⟨hgroup, hwhole⟩ | ⟨-, hrefused⟩
    · cases hwhole.symm.trans hq'
      obtain ⟨hdepth', hcost'⟩ := Part.le_of_whole hdepth hcost
      have hinner := build_eq_ok_iff.mpr ⟨_, hgroup, hdepth', hcost', rfl⟩
      exact ⟨_, q.expr, _, build_start ic, hinner, build_stop ic, q.spansIn_whole⟩
    · cases hrefused.symm.trans hq'

end Redelivery.Regex
