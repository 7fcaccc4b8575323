import Redelivery.Proofs.Pattern.Readers

/-!
# Pattern — classes of a text that goes on

A class in brackets ends with a bracket.  So one that ends within an expression is read in the same
way if the text goes on behind the expression (`bracketClass_keeps`).  This goes for its start, for
each of its members, and by induction on the members for the classes within it.
-/

namespace Redelivery.Regex

variable {k : Bool} {f : Flags} {cs r tail : List Char} {c : Char}

/-! ### The start of a class -/

theorem leadingDashes_nil (f : Flags) (n : Nat) (frame : Frame) :
    leadingDashes f n frame [] = (frame, []) := by
  cases n <;> rfl

theorem leadingDashes_cons (f : Flags) (n : Nat) (frame : Frame) (cs : List Char) :
    leadingDashes f (n + 1) frame ('-' :: cs) =
      leadingDashes f n (frame.add ⟨.range 45 45, 0⟩) (skipSpace f cs) := rfl

theorem leadingDashes_cons_of_ne (f : Flags) (n : Nat) (frame : Frame) (h : c ≠ '-') :
    leadingDashes f n frame (c :: cs) = (frame, c :: cs) := by
  unfold leadingDashes
  split
  · exact absurd (List.cons.inj ‹c :: cs = _›).1 h
  · rfl

theorem leadingDashes_append {n m : Nat} {frame frame' : Frame} (hn : cs.length ≤ n)
    (hm : cs.length ≤ m) (tail : List Char) (h : leadingDashes f n frame cs = (frame', c :: r)) :
    c :: r <:+ cs ∧ leadingDashes f m frame (cs ++ tail) = (frame', c :: (r ++ tail)) := by
  induction n generalizing m cs frame with
  | zero =>
      obtain rfl := List.length_eq_zero_iff.mp (Nat.le_zero.mp hn)
      cases h
  | succ n ih =>
      cases cs with
      | nil => cases h
      | cons d cs =>
          by_cases hd : d = '-'
          · subst hd
            obtain ⟨m, rfl⟩ := Nat.exists_eq_add_one.mpr (Nat.lt_of_lt_of_le (Nat.succ_pos _) hm)
            rw [List.length_cons] at hn hm
            rw [leadingDashes_cons] at h
            rw [List.cons_append, leadingDashes_cons]
            cases hskip : skipSpace f cs with
            | nil =>
                rw [hskip, leadingDashes_nil] at h
                cases h
            | cons e t =>
                have hsuffix := suffix_of_skipSpace hskip
                have hlen := hsuffix.length_le
                rw [hskip] at h
                rw [skipSpace_append hskip, ← List.cons_append]
                obtain ⟨hr, hgoes⟩ := ih (m := m) (by omega) (by omega) h
                exact ⟨(hr.trans hsuffix).trans (List.suffix_cons _ cs), hgoes⟩
          · rw [leadingDashes_cons_of_ne f _ _ hd] at h
            cases h
            exact ⟨List.suffix_refl _, leadingDashes_cons_of_ne f _ _ hd⟩

theorem classSign_append {negated : Bool} (h : classSign f cs = (negated, c :: r))
    (tail : List Char) :
    c :: r <:+ cs ∧ classSign f (cs ++ tail) = (negated, c :: (r ++ tail)) := by
  unfold classSign at h
  split at h
  · obtain ⟨rfl, hskip⟩ := Prod.mk.inj h
    refine ⟨(suffix_of_skipSpace hskip).trans (List.suffix_cons _ _), ?_⟩
    simp only [List.cons_append, classSign, skipSpace_append hskip]
  · rename_i hno
    obtain ⟨rfl, rfl⟩ := Prod.mk.inj h
    refine ⟨List.suffix_refl _, ?_⟩
    unfold classSign
    split
    · exact absurd ‹_› (cons_ne_of_ne hno)
    · rfl

theorem leadingBracket_keeps (frame : Frame) (hc : c :: r <:+ cs) (tail : List Char) :
    Keeps tail cs (leadingBracket f frame (c :: r))
      (leadingBracket f frame (c :: (r ++ tail))) := by
  unfold leadingBracket
  split
  · exact .error
  · rename_i heq
    obtain ⟨rfl, rfl⟩ := List.cons.inj heq
    split
    · cases hskip : skipSpace f r with
      | nil => exact .error
      | cons d t =>
          simp only [skipSpace_append hskip]
          exact .ok _ ((suffix_of_skipSpace hskip).trans ((List.suffix_cons _ r).trans hc))
    · exact .ok frame hc
  · rename_i hno
    split
    · cases ‹c :: (r ++ tail) = []›
    · exact absurd ‹_› (cons_ne_of_ne hno)
    · exact .ok frame hc

theorem openClass_keeps (tail cs : List Char) :
    Keeps tail cs (openClass f cs) (openClass f (cs ++ tail)) := by
  unfold openClass
  cases hskip : skipSpace f cs with
  | nil => exact .error
  | cons c r =>
      rw [skipSpace_append hskip, ← List.cons_append]
      rcases hsign : classSign f (c :: r) with ⟨negated, _ | ⟨d, t⟩⟩
      · exact .error
      · obtain ⟨hsuffix, hsign'⟩ := classSign_append hsign tail
        rw [hsign', ← List.cons_append]
        dsimp only
        rcases hdashes : leadingDashes f (d :: t).length { negated } (d :: t) with
          ⟨frame, _ | ⟨e, u⟩⟩
        · exact .error
        · obtain ⟨hsuffix', hdashes'⟩ := leadingDashes_append (Nat.le_refl _)
            (m := (d :: t ++ tail).length) (by simp) tail hdashes
          rw [hdashes']
          exact leadingBracket_keeps frame
            (hsuffix'.trans (hsuffix.trans (suffix_of_skipSpace hskip))) tail

/-! ### Named classes -/

theorem namedFrom_append_closing (negated : Bool) (k : Bool) (cs : List Char) :
    (∀ x ∈ namedFrom f negated cs, x.2 <:+ cs) ∧ namedFrom f negated (cs ++ closing k) =
      (namedFrom f negated cs).map fun (s, r) => (s, r ++ closing k) := by
  unfold namedFrom
  cases hcolon : cs.dropWhile (· ≠ ':') with
  | nil =>
      -- no colon stands in `closing`
      have hnone : (cs ++ closing k).dropWhile (· ≠ ':') = [] := by
        rw [List.dropWhile_append, hcolon]
        cases k <;> decide
      rw [hnone]
      exact ⟨by simp, rfl⟩
  | cons c r =>
      obtain ⟨hdrop, htake⟩ := dropWhile_append_of_cons hcolon (closing k)
      rw [hdrop, htake]
      split
      · rename_i rest heq
        obtain ⟨rfl, rfl⟩ := List.cons.inj heq
        have hrest : rest <:+ cs := (List.suffix_cons _ rest).trans (suffix_of_dropWhile hcolon)
        simp only [List.cons_append]
        cases namedClass? (String.ofList (cs.takeWhile (· ≠ ':'))) with
        | none => exact ⟨by simp, rfl⟩
        | some s => exact ⟨fun x h => Option.mem_some.mp h ▸ hrest, rfl⟩
      · rename_i hno
        split
        · rename_i heq
          obtain ⟨t, ht⟩ := eq_cons_of_append_closing (List.cons.inj heq).2 (by decide)
          exact (hno t (by rw [(List.cons.inj heq).1, ht])).elim
        · exact ⟨by simp, rfl⟩

theorem namedMember?_append_closing (k : Bool) (cs : List Char) :
    (∀ x ∈ namedMember? f cs, x.2 <:+ cs) ∧ namedMember? f (cs ++ closing k) =
      (namedMember? f cs).map fun (s, r) => (s, r ++ closing k) := by
  unfold namedMember?
  split
  · rename_i cs
    obtain ⟨hsuffix, hgoes⟩ := namedFrom_append_closing (f := f) true k cs
    exact ⟨fun x hx => (hsuffix x hx).trans
      ((List.suffix_cons _ cs).trans (List.suffix_cons _ _)), hgoes⟩
  · rename_i cs hno
    obtain ⟨hsuffix, hgoes⟩ := namedFrom_append_closing (f := f) false k cs
    refine ⟨fun x hx => (hsuffix x hx).trans (List.suffix_cons _ cs), ?_⟩
    simp only [List.cons_append]
    split
    · rename_i heq
      obtain ⟨t, ht⟩ := eq_cons_of_append_closing (List.cons.inj heq).2 (by decide)
      exact (hno t ht).elim
    · rename_i heq
      rw [← (List.cons.inj heq).2]
      exact hgoes
    · rename_i hno
      exact (hno _ rfl).elim
  · rename_i hcaret hcolon
    refine ⟨by simp, ?_⟩
    split
    · exact absurd ‹_› (not_cons_of_append_closing hcolon (by decide))
    · exact absurd ‹_› (not_cons_of_append_closing hcolon (by decide))
    · rfl

/-! ### Members -/

theorem memberItem_keeps (k : Bool) (cs : List Char) :
    Keeps (closing k) cs.tail (memberItem f cs) (memberItem f (cs ++ closing k)) := by
  unfold memberItem
  split
  · exact .error
  · exact escaped_keeps k _
  · rename_i c rest hno
    simp only [List.cons_append]
    exact .ok _ (List.suffix_refl rest)

theorem memberAfter_keeps (k : Bool) (first : Escaped) (cs : List Char) :
    Keeps (closing k) cs (memberAfter f first cs) (memberAfter f first (cs ++ closing k)) := by
  unfold memberAfter
  cases hskip : skipSpace f cs with
  | nil => exact .error
  | cons c r =>
      have hsuffix := suffix_of_skipSpace hskip
      have halone : Keeps (closing k) cs (do return (← itemSet f first, c :: r))
          (do return (← itemSet f first, c :: (r ++ closing k))) :=
        .bind_const fun s => .ok s hsuffix
      rw [skipSpace_append hskip]
      split
      · cases ‹c :: r = []›
      · rename_i heq
        obtain ⟨rfl, rfl⟩ := List.cons.inj heq
        cases hafter : skipSpace f r with
        | nil => exact .error
        | cons d t =>
            simp only [skipSpace_append hafter]
            split
            · cases ‹d :: t = []›
            · rename_i heq
              obtain ⟨rfl, rfl⟩ := List.cons.inj heq
              exact halone
            · rename_i heq
              obtain ⟨rfl, rfl⟩ := List.cons.inj heq
              exact halone
            · rename_i hbracket hdash
              split
              · cases ‹d :: (t ++ closing k) = []›
              · exact absurd ‹_› (cons_ne_of_ne hbracket)
              · exact absurd ‹_› (cons_ne_of_ne hdash)
              · have ht : d :: t <:+ cs :=
                  (suffix_of_skipSpace hafter).trans ((List.suffix_cons _ r).trans hsuffix)
                refine (memberItem_keeps k (d :: t)).bind fun last rest hrest => ?_
                have hrest := hrest.trans ((List.suffix_cons d t).trans ht)
                exact .bind_const fun s => .ok s hrest
      · rename_i hdash
        split
        · cases ‹c :: (r ++ closing k) = []›
        · exact absurd ‹_› (cons_ne_of_ne hdash)
        · exact halone

theorem classMember_keeps (k : Bool) (cs : List Char) :
    Keeps (closing k) cs.tail (classMember f cs) (classMember f (cs ++ closing k)) :=
  (memberItem_keeps k cs).bind fun first rest hrest => (memberAfter_keeps k first rest).within hrest

/-! ### Nested classes -/

theorem classFrom_keeps (k : Bool) {n m : Nat} (top : Frame) (below : List Frame)
    (hn : cs.length < n) (hm : cs.length < m) :
    Keeps (closing k) cs (classFrom f n top below cs)
      (classFrom f m top below (cs ++ closing k)) := by
  induction n generalizing m top below cs with
  | zero => omega
  | succ n ih =>
      obtain ⟨m, rfl⟩ := Nat.exists_eq_add_one.mpr (Nat.zero_lt_of_lt hm)
      unfold classFrom
      cases hskip : skipSpace f cs with
      | nil => exact .error
      | cons c r =>
          have hsuffix := suffix_of_skipSpace hskip
          have hlen := hsuffix.length_le
          rw [List.length_cons] at hlen
          have hnext : ∀ (top : Frame) (below : List Frame) {t : List Char}, t <:+ r →
              Keeps (closing k) cs (classFrom f n top below t)
                (classFrom f m top below (t ++ closing k)) := fun top below t ht => by
            have htlen := ht.length_le
            exact (ih top below (by omega) (by omega)).within
              (ht.trans ((List.suffix_cons c r).trans hsuffix))
          rw [skipSpace_append hskip]
          split
          · cases ‹c :: r = []›
          · rename_i heq
            obtain ⟨rfl, rfl⟩ := List.cons.inj heq
            obtain ⟨hnamedSuffix, hnamed⟩ := namedMember?_append_closing (f := f) k r
            simp only [hnamed]
            cases hname : namedMember? f r with
            | some x => exact hnext _ below (hnamedSuffix x hname)
            | none =>
                refine (openClass_keeps (closing k) r).bind fun inner rest hrest => ?_
                exact hnext inner (top :: below) hrest
          · rename_i heq
            obtain ⟨rfl, rfl⟩ := List.cons.inj heq
            cases below with
            | nil => exact .bind_const fun s => .ok _ ((List.suffix_cons _ r).trans hsuffix)
            | cons outer below => exact hnext _ below (List.suffix_refl r)
          · rename_i heq
            obtain ⟨rfl, rfl⟩ := List.cons.inj heq
            exact hnext _ below (List.suffix_cons _ _)
          · rename_i heq
            obtain ⟨rfl, rfl⟩ := List.cons.inj heq
            exact hnext _ below (List.suffix_cons _ _)
          · rename_i heq
            obtain ⟨rfl, rfl⟩ := List.cons.inj heq
            exact hnext _ below (List.suffix_cons _ _)
          · rename_i hopen hclose hinter hdiff hsymm
            split
            · cases ‹c :: (r ++ closing k) = []›
            · exact absurd ‹_› (cons_ne_of_ne hopen)
            · exact absurd ‹_› (cons_ne_of_ne hclose)
            · exact absurd ‹_› (not_cons_cons_of_append_closing hinter (by decide) (by decide))
            · exact absurd ‹_› (not_cons_cons_of_append_closing hdiff (by decide) (by decide))
            · exact absurd ‹_› (not_cons_cons_of_append_closing hsymm (by decide) (by decide))
            · refine (classMember_keeps k (c :: r)).bind fun s rest hrest => ?_
              exact hnext _ below hrest

theorem bracketClass_keeps (k : Bool) (cs : List Char) :
    Keeps (closing k) cs (bracketClass f cs) (bracketClass f (cs ++ closing k)) :=
  (openClass_keeps (closing k) cs).bind fun top rest hrest =>
    (classFrom_keeps k top [] (Nat.lt_succ_self _)
      (Nat.lt_succ_of_le (List.prefix_append rest _).length_le)).within hrest

end Redelivery.Regex
