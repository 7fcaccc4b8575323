import Redelivery.Proofs.Pattern.Brackets

/-!
# Pattern — groups

An expression, read by itself and read in a group.  In the second reading there is one group more
around all that is read (`Reading.within`), and otherwise the same tokens come one after the other
(`token_keeps`, `apply_within`).

**Every expression** (`parseFrom_append_closing`) becomes a part of the group that it is put in, and
the reading goes on behind that, unless the expression ends in a comment without an end.  Then the
comment takes the end of the group in, and the group is never closed.
-/

namespace Redelivery.Regex

variable {k : Bool} {f : Flags} {cs r : List Char} {c : Char}

/-! ### Openings -/

theorem namedGroup_keeps (tail cs : List Char) :
    Keeps tail cs (namedGroup f cs) (namedGroup f (cs ++ tail)) :=
  (groupName_keeps tail cs).bind fun _ _ hrest => .ok _ hrest

theorem flagged_keeps (tail cs : List Char) :
    Keeps tail cs (flagged f cs) (flagged f (cs ++ tail)) := by
  refine (flags_keeps tail [] false false f cs).bind ?_
  rintro ⟨g, isSet, isGroup⟩ rest hrest
  cases isGroup with
  | true => exact .ok _ hrest
  | false =>
      cases isSet with
      | true => exact .ok _ hrest
      | false => exact .error

theorem angled_keeps (k : Bool) (cs : List Char) :
    Keeps (closing k) cs (angled f cs) (angled f (cs ++ closing k)) := by
  unfold angled
  split
  · exact .error
  · exact .error
  · rename_i hahead hnot
    split
    · exact absurd ‹_› (not_cons_of_append_closing hahead (by decide))
    · exact absurd ‹_› (not_cons_of_append_closing hnot (by decide))
    · exact namedGroup_keeps (closing k) cs

theorem marked_keeps (k : Bool) (cs : List Char) :
    Keeps (closing k) cs (marked f cs) (marked f (cs ++ closing k)) := by
  unfold marked
  split
  · exact .error
  · exact .error
  · exact (angled_keeps k _).within (List.suffix_cons _ _)
  · exact (namedGroup_keeps (closing k) _).within
      ((List.suffix_cons _ _).trans (List.suffix_cons _ _))
  · rename_i hahead hnot hangle hcode
    split
    · exact absurd ‹_› (not_cons_of_append_closing hahead (by decide))
    · exact absurd ‹_› (not_cons_of_append_closing hnot (by decide))
    · exact absurd ‹_› (not_cons_of_append_closing hangle (by decide))
    · exact absurd ‹_› (not_cons_cons_of_append_closing hcode (by decide) (by decide))
    · exact flagged_keeps (closing k) cs

/-- Blanks in front of `closing` lead to a parenthesis or to the end of the text. -/
theorem skipSpace_append_closing_ne (hc : c ≠ ')') (h : ∀ t, skipSpace f cs ≠ c :: t)
    (t : List Char) : skipSpace f (cs ++ closing k) ≠ c :: t := by
  intro heq
  cases hskip : skipSpace f cs with
  | nil =>
      obtain ⟨takenIn, hgoes⟩ := skipSpace_of_nil hskip
      rw [hgoes k] at heq
      cases takenIn with
      | true => cases heq
      | false => exact hc (List.cons.inj heq).1.symm
  | cons d u =>
      rw [skipSpace_append hskip] at heq
      exact h u (by rw [hskip, (List.cons.inj heq).1])

theorem opening_keeps (k : Bool) (cs : List Char) :
    Keeps (closing k) cs (opening f cs) (opening f (cs ++ closing k)) := by
  unfold opening
  split
  · rename_i rest hskip
    rw [skipSpace_append hskip]
    exact (marked_keeps k rest).within (suffix_of_skipSpace_cons hskip)
  · rename_i hno
    split
    · exact absurd ‹_› (skipSpace_append_closing_ne (by decide) hno _)
    · exact .ok _ (List.suffix_refl cs)

/-! ### Tokens -/

theorem skipSpaceLazy_append_closing (k : Bool) (cs : List Char) :
    skipSpaceLazy f cs <:+ cs ∧
      skipSpaceLazy f (cs ++ closing k) = skipSpaceLazy f cs ++ closing k := by
  unfold skipSpaceLazy
  split
  · rename_i hskip
    rw [skipSpace_append hskip]
    exact ⟨suffix_of_skipSpace_cons hskip, rfl⟩
  · rename_i hno
    refine ⟨List.suffix_refl cs, ?_⟩
    split
    · exact absurd ‹_› (skipSpace_append_closing_ne (by decide) hno _)
    · rfl

/-- **A token** ends where it ended before, and is the same. -/
theorem token_keeps (k : Bool) (c : Char) (cs : List Char) :
    Keeps (closing k) cs (token f c cs) (token f c (cs ++ closing k)) := by
  have hsame : ∀ t : Token, Keeps (closing k) cs (.ok (t, cs)) (.ok (t, cs ++ closing k)) :=
    fun t => .ok t (List.suffix_refl cs)
  have hlazy : ∀ t : Token, Keeps (closing k) cs (.ok (t, skipLazy cs))
      (.ok (t, skipLazy (cs ++ closing k))) := fun t => by
    obtain ⟨hsuffix, hgoes⟩ := skipLazy_append_closing k cs
    rw [hgoes]
    exact .ok t hsuffix
  unfold token
  split
  · exact (opening_keeps k cs).bind fun _ _ hrest => .ok _ hrest
  · exact hsame _
  · exact hsame _
  · exact hlazy _
  · exact hlazy _
  · exact hlazy _
  · refine (bounds_keeps (closing k) cs).bind fun x rest hrest => ?_
    obtain ⟨hsuffix, hgoes⟩ := skipSpaceLazy_append_closing (f := f) k rest
    dsimp only
    rw [hgoes]
    exact .ok _ (hsuffix.trans hrest)
  · exact (bracketClass_keeps k cs).bind fun _ _ hrest => .ok _ hrest
  · exact (escaped_keeps k cs).bind fun _ _ hrest => .bind_const fun _ => .ok _ hrest
  · exact .bind_const fun _ => hsame _
  · exact hsame _
  · exact hsame _
  · exact hsame _

/-! ### Readings -/

namespace Reading

variable {s s' : Reading} {o : Outer}

/-- The same reading with one group more around all the others. -/
def within (s : Reading) (o : Outer) : Reading := { s with outer := s.outer ++ [o] }

/-- **A step** goes on as it did if there is one group more around all. -/
theorem apply_within {t : Token} (h : s.apply t = .ok s') (o : Outer) :
    (s.within o).apply t = .ok (s'.within o) := by
  cases t with
  | opening x =>
      cases x with
      | setFlags g =>
          cases h
          rfl
      | group g name =>
          simp only [apply, begin] at h ⊢
          split at h
          · cases h
          · cases h
            exact if_neg ‹_›
  | closing =>
      simp only [apply, close] at h ⊢
      split at h
      · cases h
      · rename_i o' outer houter
        cases h
        simp only [within, houter, List.cons_append]
  | bar =>
      cases h
      rfl
  | part p =>
      cases h
      rfl
  | repetition least most =>
      change (s.branches.repeatLast least most >>= fun b => _) = _ at h ⊢
      cases hb : s.branches.repeatLast least most with
      | error e =>
          rw [hb] at h
          cases h
      | ok b =>
          rw [hb] at h
          cases h
          rfl

theorem finish_eq_ok {p : Part} (h : s.finish = .ok p) :
    s.outer = [] ∧ p = s.branches.finish := by
  unfold finish at h
  split at h
  · exact ⟨List.isEmpty_iff.mp ‹_›, (Except.ok.inj h).symm⟩
  · cases h

end Reading

/-! ### Runs -/

section

variable {s s' : Reading} {t : Token} {p : Part} {n : Nat}

theorem parseFrom_of_nil (n : Nat) (hskip : skipSpace s.flags cs = []) :
    parseFrom (n + 1) s cs = s.finish := by
  rw [parseFrom, hskip]

theorem parseFrom_cons (n : Nat) (hskip : skipSpace s.flags cs = c :: r) :
    parseFrom (n + 1) s cs =
      token s.flags c r >>= fun x => s.apply x.1 >>= fun s => parseFrom n s x.2 := by
  rw [parseFrom, hskip]

theorem parseFrom_of_token (n : Nat) {rest : List Char} (hskip : skipSpace s.flags cs = c :: r)
    (htoken : token s.flags c r = .ok (t, rest)) (happly : s.apply t = .ok s') :
    parseFrom (n + 1) s cs = parseFrom n s' rest := by
  rw [parseFrom_cons n hskip, htoken]
  change (s.apply t >>= fun s => parseFrom n s rest) = _
  rw [happly]
  rfl

/-- A run that succeeds has read a token. -/
theorem exists_token_of_parseFrom (hskip : skipSpace s.flags cs = c :: r)
    (h : parseFrom (n + 1) s cs = .ok p) : ∃ t rest s', token s.flags c r = .ok (t, rest) ∧
      s.apply t = .ok s' ∧ parseFrom n s' rest = .ok p := by
  rw [parseFrom_cons n hskip] at h
  rcases htoken : token s.flags c r with e | ⟨t, rest⟩
  · rw [htoken] at h
    cases h
  · rw [htoken] at h
    change (s.apply t >>= fun s => parseFrom n s rest) = _ at h
    cases happly : s.apply t with
    | error e =>
        rw [happly] at h
        cases h
    | ok s' =>
        rw [happly] at h
        exact ⟨t, rest, s', rfl, happly, h⟩

end

/-- What a text describes that ends behind a group, or behind the sign after the group. -/
def Outer.whole (o : Outer) (p : Part) (anchored : Bool) : Part :=
  let b := o.branches.add ⟨p.expr, p.depth + 1⟩
  (if anchored then b.add ⟨.look .textEnd false, 0⟩ else b).finish

/-- The end of the text behind a group. -/
theorem parseFrom_behind {s : Reading} (hspaced : s.flags.spaced = false)
    (hline : s.flags.multiLine = false) (houter : s.outer = []) {m : Nat} (hm : 1 < m) (k : Bool) :
    parseFrom m s (if k then ['$'] else []) =
      .ok (if k then s.branches.add ⟨.look .textEnd false, 0⟩ else s.branches).finish := by
  obtain ⟨m, rfl⟩ : ∃ j, m = j + 2 := ⟨m - 2, by omega⟩
  have hskip := skipSpace_of_unspaced hspaced
  have hend : ∀ m b, parseFrom (m + 1) { s with branches := b } [] = .ok b.finish := fun m b => by
    rw [parseFrom_of_nil (s := { s with branches := b }) m (hskip []), Reading.finish, houter]
    rfl
  cases k with
  | false => exact hend _ s.branches
  | true =>
      have hdollar : token s.flags '$' [] = .ok (.part ⟨.look .textEnd false, 0⟩, []) := by
        simp [token, dollar, hline]
      exact (parseFrom_of_token _ (hskip ['$']) hdollar rfl).trans (hend m _)

/-- **An expression in a group.**  It is read there as it is read by itself, and the reading goes on
behind the group, unless a comment takes the end of the group in. -/
theorem parseFrom_append_closing {n : Nat} {s : Reading} {p : Part} (hn : cs.length < n)
    (h : parseFrom n s cs = .ok p) :
    ∃ takenIn : Bool, ∀ (o : Outer) (k : Bool) (m : Nat), o.flags.spaced = false →
      o.flags.multiLine = false → cs.length + 2 < m →
        parseFrom m (s.within o) (cs ++ closing k) =
          if takenIn then .error .openGroup else .ok (o.whole p k) := by
  induction n generalizing s cs with
  | zero => omega
  | succ n ih =>
      cases hskip : skipSpace s.flags cs with
      | nil =>
          rw [parseFrom_of_nil n hskip] at h
          obtain ⟨houter, rfl⟩ := Reading.finish_eq_ok h
          obtain ⟨takenIn, hgoes⟩ := skipSpace_of_nil hskip
          refine ⟨takenIn, fun o k m hspaced hline hm => ?_⟩
          obtain ⟨m, rfl⟩ := Nat.exists_eq_add_one.mpr (Nat.zero_lt_of_lt hm)
          have hblanks : skipSpace (s.within o).flags (cs ++ closing k) = _ := hgoes k
          cases takenIn with
          | true =>
              rw [parseFrom_of_nil m hblanks]
              simp [Reading.finish, Reading.within]
          | false =>
              -- the parenthesis ends the group
              have hclose : (s.within o).apply .closing = .ok
                  { s with
                    flags := o.flags
                    branches := o.branches.add ⟨s.branches.finish.expr, s.branches.finish.depth + 1⟩
                    outer := [] } := by
                simp [Reading.apply, Reading.close, Reading.within, houter]
              rw [parseFrom_of_token m hblanks rfl hclose]
              exact parseFrom_behind hspaced hline rfl (by omega) k
      | cons c r =>
          have hr := suffix_of_skipSpace_cons hskip
          obtain ⟨t, rest, s', htoken, happly, hrest⟩ := exists_token_of_parseFrom hskip h
          have hlen := (suffix_of_skipSpace hskip).length_le
          have hsuffix := (htoken ▸ token_keeps true c r).of_ok.1.length_le
          rw [List.length_cons] at hlen
          obtain ⟨takenIn, hgoes⟩ := ih (by omega) hrest
          refine ⟨takenIn, fun o k m hspaced hline hm => ?_⟩
          obtain ⟨m, rfl⟩ := Nat.exists_eq_add_one.mpr (Nat.zero_lt_of_lt hm)
          have hskip' : skipSpace (s.within o).flags (cs ++ closing k) = c :: (r ++ closing k) :=
            skipSpace_append hskip _
          have htoken' : token (s.within o).flags c (r ++ closing k) = .ok (t, rest ++ closing k) :=
            (htoken ▸ token_keeps k c r).of_ok.2
          rw [parseFrom_of_token m hskip' htoken' (Reading.apply_within happly o)]
          exact hgoes o k m hspaced hline (by omega)

end Redelivery.Regex
