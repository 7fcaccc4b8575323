import Mathlib.Data.List.Infix
import Mathlib.Tactic.SplitIfs
import Redelivery.Pattern.Regex.Parser

/-!
# Pattern — readers of a text that goes on

An expression is put in a group as a text, so behind it the text goes on: with the parenthesis that
ends the group, and with a dollar sign where the group stands between anchors (`closing`).  What
reads the parts of an expression does not know where the expression ends.

**A reader that succeeds** on the expression reads the same of the longer text, and leaves what it
left, with `closing` behind (`Keeps`).  It never comes to the end of the expression without an
error, but for blanks at the end.  These are read up to `closing`, or a comment without an end
takes `closing` in (`skipSpace_of_nil`).
-/

namespace Redelivery.Regex

/-- What ends a group, and then the text; between anchors there is one more sign. -/
def closing (anchored : Bool) : List Char := ')' :: if anchored then ['$'] else []

/-- If the first reading is an answer, the second is the same one, but for `tail` behind what is
left of the text, which is the end of `cs`. -/
inductive Keeps {α : Type} (tail cs : List Char) :
    Except Flaw (α × List Char) → Except Flaw (α × List Char) → Prop where
  | error {e : Flaw} {y : Except Flaw (α × List Char)} : Keeps tail cs (.error e) y
  | ok {r : List Char} (a : α) (h : r <:+ cs) : Keeps tail cs (.ok (a, r)) (.ok (a, r ++ tail))

namespace Keeps

variable {α β : Type} {tail cs cs' r : List Char} {a : α} {x y : Except Flaw (α × List Char)}

theorem of_ok (h : Keeps tail cs (.ok (a, r)) y) : r <:+ cs ∧ y = .ok (a, r ++ tail) := by
  cases h with
  | ok a h => exact ⟨h, rfl⟩

/-- What is read of the end of a text is read of the text. -/
theorem within (h : Keeps tail cs x y) (hcs : cs <:+ cs') : Keeps tail cs' x y := by
  cases h with
  | error => exact .error
  | ok a h => exact .ok a (h.trans hcs)

/-- What follows a reader. -/
theorem bind {f g : α × List Char → Except Flaw (β × List Char)} (h : Keeps tail cs x y)
    (hf : ∀ a r, r <:+ cs → Keeps tail cs' (f (a, r)) (g (a, r ++ tail))) :
    Keeps tail cs' (x >>= f) (y >>= g) := by
  cases h with
  | error => exact .error
  | ok a h => exact hf a _ h

/-- What does not look at the text. -/
theorem bind_const {x : Except Flaw α} {f g : α → Except Flaw (β × List Char)}
    (h : ∀ a, Keeps tail cs (f a) (g a)) : Keeps tail cs (x >>= f) (x >>= g) := by
  cases x with
  | error e => exact .error
  | ok a => exact h a

end Keeps

variable {k : Bool} {f : Flags} {cs r : List Char} {c : Char}

theorem cons_ne_of_ne {a : Char} {r' t : List Char} (h : ∀ t, c :: r = a :: t → False) :
    c :: r' ≠ a :: t := fun heq => h r (by rw [(List.cons.inj heq).1])

/-- A text that goes on with `closing` begins as it did before. -/
theorem eq_cons_of_append_closing {a : Char} (h : cs ++ closing k = a :: r) (ha : a ≠ ')') :
    ∃ r', cs = a :: r' := by
  cases cs with
  | nil => exact absurd (List.cons.inj h).1.symm ha
  | cons d r' => exact ⟨r', by rw [(List.cons.inj h).1]⟩

theorem not_cons_of_append_closing {a : Char} (h : ∀ t, cs = a :: t → False) (ha : a ≠ ')') :
    cs ++ closing k ≠ a :: r := fun heq => by
  obtain ⟨t, rfl⟩ := eq_cons_of_append_closing heq ha
  exact h t rfl

theorem not_cons_cons_of_append_closing {a b : Char} (h : ∀ t, cs = a :: b :: t → False)
    (ha : a ≠ ')') (hb : b ≠ ')') : cs ++ closing k ≠ a :: b :: r := fun heq => by
  obtain ⟨t, rfl⟩ := eq_cons_of_append_closing heq ha
  exact not_cons_of_append_closing (fun t h' => h t (by rw [h'])) hb (List.cons.inj heq).2

/-! ### Blanks -/

theorem skipLine_suffix (cs : List Char) : skipLine cs <:+ cs :=
  (List.drop_suffix 1 _).trans (List.dropWhile_suffix _)

/-- A line ends where it ended before, or it has no end. -/
theorem skipLine_cases (cs : List Char) : (∀ tail, skipLine (cs ++ tail) = skipLine cs ++ tail) ∨
    skipLine cs = [] ∧ ∀ k, skipLine (cs ++ closing k) = [] := by
  unfold skipLine
  cases h : cs.dropWhile (· ≠ '\n') with
  | nil =>
      refine .inr ⟨rfl, fun k => ?_⟩
      rw [List.dropWhile_append, h]
      cases k <;> decide
  | cons c r =>
      refine .inl fun tail => ?_
      rw [List.dropWhile_append, h]
      rfl

theorem skipSpaceFrom_of_unspaced (n : Nat) (cs : List Char) : skipSpaceFrom false n cs = cs := by
  cases n <;> rfl

theorem skipSpaceFrom_nil (n : Nat) : skipSpaceFrom true n [] = [] := by
  cases n <;> rfl

theorem skipSpaceFrom_succ (n : Nat) (cs : List Char) : skipSpaceFrom true (n + 1) cs =
    match cs with
    | '#' :: rest => skipSpaceFrom true n (skipLine rest)
    | c :: rest => if Text.isBlank c then skipSpaceFrom true n rest else cs
    | [] => [] := rfl

theorem skipSpaceFrom_cons (n : Nat) (c : Char) (cs : List Char) :
    skipSpaceFrom true (n + 1) (c :: cs) =
      if c = '#' then skipSpaceFrom true n (skipLine cs)
      else if Text.isBlank c = true then skipSpaceFrom true n cs
      else c :: cs := by
  rw [skipSpaceFrom_succ]
  by_cases hc : c = '#'
  · rw [if_pos hc]
    subst hc
    rfl
  · rw [if_neg hc]
    split
    · rename_i h
      exact absurd (List.cons.inj h).1 hc
    · rename_i h
      obtain ⟨rfl, rfl⟩ := List.cons.inj h
      rfl
    · rename_i h
      cases h

theorem skipSpace_of_unspaced (h : f.spaced = false) (cs : List Char) : skipSpace f cs = cs := by
  rw [skipSpace, h, skipSpaceFrom_of_unspaced]

theorem skipSpaceFrom_suffix (n : Nat) (cs : List Char) : skipSpaceFrom true n cs <:+ cs := by
  induction n generalizing cs with
  | zero => exact List.suffix_refl _
  | succ n ih =>
      cases cs with
      | nil => exact List.suffix_refl _
      | cons c cs =>
          rw [skipSpaceFrom_cons]
          split_ifs
          · exact ((ih _).trans (skipLine_suffix cs)).trans (List.suffix_cons c cs)
          · exact (ih cs).trans (List.suffix_cons c cs)
          · exact List.suffix_refl _

theorem skipSpace_suffix (f : Flags) (cs : List Char) : skipSpace f cs <:+ cs := by
  unfold skipSpace
  cases f.spaced with
  | false => rw [skipSpaceFrom_of_unspaced]
  | true => exact skipSpaceFrom_suffix _ cs

/-- Blanks end where they ended before, whatever the text goes on with. -/
theorem skipSpaceFrom_append {n m : Nat} (hn : cs.length ≤ n) (hm : cs.length ≤ m)
    (tail : List Char) (h : skipSpaceFrom true n cs = c :: r) :
    skipSpaceFrom true m (cs ++ tail) = c :: (r ++ tail) := by
  induction n generalizing m cs with
  | zero =>
      obtain rfl := List.length_eq_zero_iff.mp (Nat.le_zero.mp hn)
      cases h
  | succ n ih =>
      cases cs with
      | nil => cases h
      | cons d cs =>
          obtain ⟨m, rfl⟩ := Nat.exists_eq_add_one.mpr (Nat.lt_of_lt_of_le (Nat.succ_pos _) hm)
          rw [List.length_cons] at hn hm
          rw [List.cons_append, skipSpaceFrom_cons]
          rw [skipSpaceFrom_cons] at h
          split_ifs at h ⊢
          · have hlen := (skipLine_suffix cs).length_le
            rcases skipLine_cases cs with hline | ⟨hline, -⟩
            · rw [hline]
              exact ih (by omega) (by omega) h
            · rw [hline, skipSpaceFrom_nil] at h
              cases h
          · exact ih (by omega) (by omega) h
          · obtain ⟨rfl, rfl⟩ := List.cons.inj h
            rfl

/-- Blanks and comments up to the end of the text go on to `closing`, or take it in. -/
theorem skipSpaceFrom_of_nil {n : Nat} (hn : cs.length ≤ n) (h : skipSpaceFrom true n cs = []) :
    ∃ takenIn : Bool, ∀ k m, cs.length < m →
      skipSpaceFrom true m (cs ++ closing k) = if takenIn then [] else closing k := by
  induction n generalizing cs with
  | zero =>
      obtain rfl := List.length_eq_zero_iff.mp (Nat.le_zero.mp hn)
      refine ⟨false, fun k m hm => ?_⟩
      obtain ⟨m, rfl⟩ := Nat.exists_eq_add_one.mpr hm
      rfl
  | succ n ih =>
      cases cs with
      | nil =>
          refine ⟨false, fun k m hm => ?_⟩
          obtain ⟨m, rfl⟩ := Nat.exists_eq_add_one.mpr hm
          rfl
      | cons d cs =>
          rw [List.length_cons] at hn
          rw [skipSpaceFrom_cons] at h
          split_ifs at h with hc hb
          · rcases skipLine_cases cs with hline | ⟨-, hline⟩
            · have hlen := (skipLine_suffix cs).length_le
              obtain ⟨takenIn, hgoes⟩ := ih (by omega) h
              refine ⟨takenIn, fun k m hm => ?_⟩
              obtain ⟨m, rfl⟩ := Nat.exists_eq_add_one.mpr (Nat.zero_lt_of_lt hm)
              rw [List.length_cons] at hm
              rw [List.cons_append, skipSpaceFrom_cons, if_pos hc, hline, hgoes k m (by omega)]
            · -- the comment has no end
              refine ⟨true, fun k m hm => ?_⟩
              obtain ⟨m, rfl⟩ := Nat.exists_eq_add_one.mpr (Nat.zero_lt_of_lt hm)
              rw [List.cons_append, skipSpaceFrom_cons, if_pos hc, hline, skipSpaceFrom_nil]
              rfl
          · obtain ⟨takenIn, hgoes⟩ := ih (by omega) h
            refine ⟨takenIn, fun k m hm => ?_⟩
            obtain ⟨m, rfl⟩ := Nat.exists_eq_add_one.mpr (Nat.zero_lt_of_lt hm)
            rw [List.length_cons] at hm
            rw [List.cons_append, skipSpaceFrom_cons, if_neg hc, if_pos hb, hgoes k m (by omega)]

/-- Blanks end where they ended before, whatever the text goes on with. -/
theorem skipSpace_append (h : skipSpace f cs = c :: r) (tail : List Char) :
    skipSpace f (cs ++ tail) = c :: (r ++ tail) := by
  unfold skipSpace at h ⊢
  cases hs : f.spaced with
  | false =>
      rw [hs, skipSpaceFrom_of_unspaced] at h
      rw [skipSpaceFrom_of_unspaced, h]
      rfl
  | true =>
      rw [hs] at h
      exact skipSpaceFrom_append (Nat.le_refl _) (by simp) tail h

/-- **Blanks up to the end** of the text go on to `closing`, or a comment takes it in. -/
theorem skipSpace_of_nil (h : skipSpace f cs = []) :
    ∃ takenIn : Bool, ∀ k, skipSpace f (cs ++ closing k) = if takenIn then [] else closing k := by
  unfold skipSpace at h ⊢
  cases hs : f.spaced with
  | false =>
      rw [hs, skipSpaceFrom_of_unspaced] at h
      subst h
      exact ⟨false, fun k => skipSpaceFrom_of_unspaced _ _⟩
  | true =>
      rw [hs] at h
      obtain ⟨takenIn, hgoes⟩ := skipSpaceFrom_of_nil (Nat.le_refl _) h
      exact ⟨takenIn, fun k => hgoes k _ (by simp [closing])⟩

theorem suffix_of_skipSpace (h : skipSpace f cs = c :: r) : c :: r <:+ cs :=
  h ▸ skipSpace_suffix f cs

theorem suffix_of_skipSpace_cons (h : skipSpace f cs = c :: r) : r <:+ cs :=
  (List.suffix_cons c r).trans (suffix_of_skipSpace h)

/-! ### Up to a character -/

section

variable {p : Char → Bool} {read : List Char}

theorem readWhileFrom_nil (f : Flags) (p : Char → Bool) (n : Nat) :
    readWhileFrom f p n [] = ([], []) := by
  cases n <;> rfl

theorem readWhileFrom_cons (f : Flags) (p : Char → Bool) (n : Nat) (c : Char) (cs : List Char) :
    readWhileFrom f p (n + 1) (c :: cs) =
      if p c then
        (c :: (readWhileFrom f p n (skipSpace f cs)).1, (readWhileFrom f p n (skipSpace f cs)).2)
      else ([], c :: cs) := rfl

theorem readWhileFrom_suffix (n : Nat) (cs : List Char) : (readWhileFrom f p n cs).2 <:+ cs := by
  induction n generalizing cs with
  | zero => exact List.suffix_refl _
  | succ n ih =>
      cases cs with
      | nil => exact List.suffix_refl _
      | cons c cs =>
          rw [readWhileFrom_cons]
          split
          · exact ((ih _).trans (skipSpace_suffix f cs)).trans (List.suffix_cons c cs)
          · exact List.suffix_refl _

theorem readWhileFrom_append {n m : Nat} (hn : cs.length ≤ n) (hm : cs.length ≤ m)
    (tail : List Char) (h : readWhileFrom f p n cs = (read, c :: r)) :
    readWhileFrom f p m (cs ++ tail) = (read, c :: (r ++ tail)) := by
  induction n generalizing m cs read with
  | zero =>
      obtain rfl := List.length_eq_zero_iff.mp (Nat.le_zero.mp hn)
      cases h
  | succ n ih =>
      cases cs with
      | nil => cases h
      | cons d cs =>
          obtain ⟨m, rfl⟩ := Nat.exists_eq_add_one.mpr (Nat.lt_of_lt_of_le (Nat.succ_pos _) hm)
          rw [List.length_cons] at hn hm
          rw [List.cons_append, readWhileFrom_cons]
          rw [readWhileFrom_cons] at h
          split at h
          · obtain ⟨rfl, hrest⟩ := Prod.mk.inj h
            cases hskip : skipSpace f cs with
            | nil =>
                rw [hskip, readWhileFrom_nil] at hrest
                cases hrest
            | cons e t =>
                have hlen := (suffix_of_skipSpace hskip).length_le
                rw [skipSpace_append hskip, if_pos ‹_›, ← List.cons_append, ← hskip,
                  ih (hskip ▸ hlen.trans (by omega)) (hskip ▸ hlen.trans (by omega))
                    (Prod.ext rfl hrest)]
          · obtain ⟨rfl, hrest⟩ := Prod.mk.inj h
            obtain ⟨rfl, rfl⟩ := List.cons.inj hrest
            rw [if_neg ‹_›]

/-- Characters are read up to the same one, whatever the text goes on with. -/
theorem readWhile_append (h : readWhile f p cs = (read, c :: r)) (tail : List Char) :
    readWhile f p (cs ++ tail) = (read, c :: (r ++ tail)) :=
  readWhileFrom_append (Nat.le_refl _) (by simp) tail h

theorem suffix_of_readWhile (h : readWhile f p cs = (read, r)) : r <:+ cs := by
  obtain rfl : (readWhile f p cs).2 = r := congrArg Prod.snd h
  exact readWhileFrom_suffix cs.length cs

/-- A search that ends at a character ends there whatever the text goes on with. -/
theorem dropWhile_append_of_cons (h : cs.dropWhile p = c :: r) (tail : List Char) :
    (cs ++ tail).dropWhile p = c :: (r ++ tail) ∧ (cs ++ tail).takeWhile p = cs.takeWhile p := by
  rw [List.dropWhile_append, List.takeWhile_append, h]
  refine ⟨rfl, if_neg fun hlen => ?_⟩
  have hlength := congrArg List.length (List.takeWhile_append_dropWhile (p := p) (l := cs))
  rw [List.length_append, hlen, h, List.length_cons] at hlength
  omega

theorem suffix_of_dropWhile (h : cs.dropWhile p = c :: r) : r <:+ cs :=
  (List.suffix_cons c r).trans (h ▸ List.dropWhile_suffix p)

end

theorem inBraces_keeps (tail cs : List Char) :
    Keeps tail cs (inBraces f cs) (inBraces f (cs ++ tail)) := by
  unfold inBraces
  cases hskip : skipSpace f cs with
  | nil => exact .error
  | cons c r =>
      rw [skipSpace_append hskip, ← List.cons_append]
      split
      · exact .error
      · rename_i inner d rest hread
        rw [readWhile_append hread]
        exact .ok inner ((List.suffix_cons d rest).trans
          ((suffix_of_readWhile hread).trans (suffix_of_skipSpace hskip)))

/-! ### Numbers -/

theorem hexFixed_keeps (tail : List Char) (n acc : Nat) (cs : List Char) :
    Keeps tail cs (hexFixed f n acc cs) (hexFixed f n acc (cs ++ tail)) := by
  induction n generalizing acc cs with
  | zero => exact .bind_const fun v => .ok v (List.suffix_refl cs)
  | succ n ih =>
      unfold hexFixed
      cases hskip : skipSpace f cs with
      | nil => exact .error
      | cons c r =>
          rw [skipSpace_append hskip]
          dsimp only
          cases hexValue? c with
          | none => exact .error
          | some v => exact (ih _ r).within (suffix_of_skipSpace_cons hskip)

/-- What a number leaves, if it leaves something. -/
theorem decimal?_append {n : Option Nat} (h : decimal? f cs = .ok (n, c :: r)) (tail : List Char) :
    c :: r <:+ cs ∧ decimal? f (cs ++ tail) = .ok (n, c :: (r ++ tail)) := by
  unfold decimal? at h ⊢
  cases hblanks : cs.dropWhile Text.isBlank with
  | nil =>
      rw [hblanks] at h
      cases h
  | cons d t =>
      rw [hblanks] at h
      rw [(dropWhile_append_of_cons hblanks tail).1, ← List.cons_append]
      rcases hdigits : readWhile f Char.isDigit (d :: t) with ⟨digits, rest⟩
      rw [hdigits] at h
      have hsuffix : rest <:+ cs :=
        (suffix_of_readWhile hdigits).trans (hblanks ▸ List.dropWhile_suffix _)
      rcases hafter : readWhile f Text.isBlank rest with ⟨blanks, after⟩
      dsimp only at h
      rw [hafter] at h
      have hrest : after = c :: r := by
        split_ifs at h <;> exact congrArg Prod.snd (Except.ok.inj h)
      subst hrest
      cases rest with
      | nil => cases hafter
      | cons e u =>
          refine ⟨(suffix_of_readWhile hafter).trans hsuffix, ?_⟩
          rw [readWhile_append hdigits]
          dsimp only
          rw [← List.cons_append, readWhile_append hafter]
          split_ifs at h ⊢ <;> cases h <;> rfl

theorem bound_keeps (tail cs : List Char) :
    Keeps tail cs (bound f cs) (bound f (cs ++ tail)) := by
  unfold bound
  rcases hread : decimal? f cs with e | ⟨n, _ | ⟨c, r⟩⟩
  · exact .error
  · cases n <;> exact .error
  · obtain ⟨hsuffix, hread'⟩ := decimal?_append hread tail
    have hr := (List.suffix_cons c r).trans hsuffix
    rw [hread']
    change Keeps tail cs (boundEnd (n, c :: r)) (boundEnd (n, c :: (r ++ tail)))
    unfold boundEnd
    split
    · rename_i heq
      cases heq
      exact .ok _ hr
    · rename_i heq
      cases heq
      exact .ok _ hr
    · exact .error

theorem greaterBound_keeps (tail : List Char) (least : Nat) (isMore : Bool) (cs : List Char) :
    Keeps tail cs (greaterBound f least isMore cs) (greaterBound f least isMore (cs ++ tail)) := by
  unfold greaterBound
  split
  · exact .ok (some least) (List.suffix_refl cs)
  · cases hskip : skipSpace f cs with
    | nil => exact .error
    | cons c r =>
        rw [skipSpace_append hskip]
        split
        · rename_i heq
          obtain ⟨rfl, rfl⟩ := List.cons.inj heq
          exact .ok none (suffix_of_skipSpace_cons hskip)
        · rename_i hno
          split
          · exact absurd ‹_› (cons_ne_of_ne hno)
          · refine (bound_keeps tail (c :: r)).bind ?_
            rintro ⟨most, isMore⟩ rest hrest
            cases isMore with
            | true => exact .error
            | false => exact .ok (some most) (hrest.trans (suffix_of_skipSpace hskip))

theorem bounds_keeps (tail cs : List Char) :
    Keeps tail cs (bounds f cs) (bounds f (cs ++ tail)) := by
  unfold bounds
  cases hskip : skipSpace f cs with
  | nil => exact .error
  | cons c r =>
      rw [skipSpace_append hskip]
      refine (bound_keeps tail (c :: r)).bind ?_
      rintro ⟨least, isMore⟩ rest hrest
      refine (greaterBound_keeps tail least isMore rest).bind fun most rest' hrest' => ?_
      dsimp only
      split
      · exact .ok (least, most) (hrest'.trans (hrest.trans (suffix_of_skipSpace hskip)))
      · exact .error

/-- A question mark behind a repetition is there or not. -/
theorem skipLazy_append_closing (k : Bool) (cs : List Char) :
    skipLazy cs <:+ cs ∧ skipLazy (cs ++ closing k) = skipLazy cs ++ closing k := by
  unfold skipLazy
  split
  · exact ⟨List.suffix_cons _ _, rfl⟩
  · rename_i hno
    refine ⟨List.suffix_refl cs, ?_⟩
    split
    · exact absurd ‹_› (not_cons_of_append_closing hno (by decide))
    · rfl

/-! ### Names and flags -/

theorem groupName_keeps (tail cs : List Char) :
    Keeps tail cs (groupName cs) (groupName (cs ++ tail)) := by
  unfold groupName
  cases hname : cs.dropWhile (· ≠ '>') with
  | nil => cases cs.takeWhile (· ≠ '>') <;> exact .error
  | cons c r =>
      obtain ⟨hdrop, htake⟩ := dropWhile_append_of_cons hname tail
      rw [hdrop, htake]
      cases cs.takeWhile (· ≠ '>') with
      | nil => exact .error
      | cons first others =>
          dsimp only
          split
          · exact .ok _ (suffix_of_dropWhile hname)
          · exact .error

theorem flags_keeps (tail : List Char) (seen : List Char) (negative dangling : Bool) (f : Flags)
    (cs : List Char) : Keeps tail cs (flags seen negative dangling f cs)
      (flags seen negative dangling f (cs ++ tail)) := by
  induction cs generalizing seen negative dangling f with
  | nil => exact .error
  | cons c cs ih =>
      have hnext := fun seen negative dangling f =>
        (ih seen negative dangling f).within (List.suffix_cons c cs)
      rw [List.cons_append]
      unfold flags
      split
      · split
        · exact .error
        · exact .ok _ (List.suffix_cons c cs)
      · split
        · split
          · exact .error
          · exact hnext ..
        · split
          · exact .error
          · dsimp only
            split <;> first | exact hnext .. | exact .error

/-! ### Escapes -/

theorem propertyName_keeps (tail cs : List Char) :
    Keeps tail cs (propertyName f cs) (propertyName f (cs ++ tail)) := by
  unfold propertyName
  cases hskip : skipSpace f cs with
  | nil => exact .error
  | cons c r =>
      have hr := suffix_of_skipSpace_cons hskip
      rw [skipSpace_append hskip]
      split
      · cases ‹c :: r = []›
      · rename_i heq
        obtain ⟨rfl, rfl⟩ := List.cons.inj heq
        exact (inBraces_keeps tail r).within hr
      · rename_i hno heq
        obtain ⟨rfl, rfl⟩ := List.cons.inj heq
        split
        · cases ‹c :: (r ++ tail) = []›
        · exact absurd (List.cons.inj ‹c :: (r ++ tail) = _›).1 hno
        · rename_i heq
          obtain ⟨rfl, rfl⟩ := List.cons.inj heq
          exact .ok [c] hr

theorem codePoint_keeps (tail : List Char) (kind : Char) (cs : List Char) :
    Keeps tail cs (codePoint f kind cs) (codePoint f kind (cs ++ tail)) := by
  unfold codePoint
  cases hskip : skipSpace f cs with
  | nil =>
      have hdigits : ∃ n, digitCount kind = n + 1 := by
        unfold digitCount
        split_ifs <;> exact ⟨_, rfl⟩
      obtain ⟨n, hn⟩ := hdigits
      rw [hn]
      exact .error
  | cons c r =>
      rw [skipSpace_append hskip]
      split
      · rename_i heq
        obtain ⟨rfl, rfl⟩ := List.cons.inj heq
        refine (inBraces_keeps tail r).bind fun digits rest hrest => .bind_const fun n => ?_
        exact .ok _ (hrest.trans (suffix_of_skipSpace_cons hskip))
      · rename_i hno
        split
        · exact absurd ‹_› (cons_ne_of_ne hno)
        · refine (hexFixed_keeps tail _ 0 (c :: r)).bind fun n rest hrest => ?_
          exact .ok _ (hrest.trans (suffix_of_skipSpace hskip))

theorem boundary_keeps (k : Bool) (cs : List Char) :
    Keeps (closing k) cs (boundary f cs) (boundary f (cs ++ closing k)) := by
  unfold boundary
  split
  · rename_i inner
    cases hskip : skipSpace f inner with
    | nil => exact .error
    | cons c r =>
        simp only [List.cons_append, skipSpace_append hskip]
        split
        · exact .ok _ (List.suffix_refl _)
        · rw [← List.cons_append]
          split
          · rename_i name rest hread
            rw [readWhile_append hread]
            have hrest : rest <:+ inner := (List.suffix_cons _ rest).trans
              ((suffix_of_readWhile hread).trans (suffix_of_skipSpace hskip))
            exact .bind_const fun l => .ok _ (hrest.trans (List.suffix_cons _ inner))
          · exact .error
  · rename_i hno
    split
    · exact absurd ‹_› (not_cons_of_append_closing hno (by decide))
    · exact .ok _ (List.suffix_refl cs)

theorem escaped_keeps (k : Bool) (cs : List Char) :
    Keeps (closing k) cs (escaped f cs) (escaped f (cs ++ closing k)) := by
  cases cs with
  | nil => exact .error
  | cons c cs =>
      have hsuffix := List.suffix_cons c cs
      have hkeep : ∀ e : Escaped, Keeps (closing k) (c :: cs) (.ok (e, cs))
          (.ok (e, cs ++ closing k)) := fun e => .ok e hsuffix
      rw [List.cons_append]
      unfold escaped
      dsimp only
      split
      · exact .error
      split
      · exact (codePoint_keeps _ c cs).within hsuffix
      split
      · refine (propertyName_keeps _ cs).bind fun name rest hrest => .bind_const fun s => ?_
        exact .ok _ (hrest.trans hsuffix)
      split
      · exact hkeep _
      split
      · exact hkeep _
      split
      · exact hkeep _
      split <;> first | exact hkeep _ | exact (boundary_keeps k cs).within hsuffix | exact .error

end Redelivery.Regex
