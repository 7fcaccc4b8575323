import Mathlib.Data.List.TakeWhile
import Redelivery.Chain.Routing
import Redelivery.Classifier

/-!
# Failure — the sources of an error

An error stems from another one, which may stem from a third: its sources, nearest first.  The
failure that it amounts to has one level for the error and one for each source
(`Failure.Unfolds`).  A source that is handed down as far as there are causes leaves the levels
above it as they are, and so all sources come to lie below what was there, in their order
(`levels_withSources`).

**Sources** (`unfolds_ofError`).  For every error:

* the messages are the texts of the error and of its sources, from the outermost level on, under
  the short name of its type (`Failure.IsShortName`) and `source` below it;
* whoever goes from cause to cause meets each source once, nearest first, and then stops
  (`Failure.Traversal`);
* a classifier or a rule that looks at causes asks for the name of the type first, and for
  `source` only if that name decides nothing and there is a source.
-/

namespace Redelivery

namespace Failure

/-! ### The name of a type -/

/-- What stands between the names of a path. -/
def separator : List Char := [':', ':']

/-- `name` is what follows the last separator of the path, or all of it if there is none. -/
def IsLastName (path name : List Char) : Prop :=
  (¬ separator <:+: path ∧ name = path) ∨
    (separator ++ name <:+ path ∧ ∀ other, separator ++ other <:+ path → name <:+ other)

/-- `name` is the last name of the path in front of its type arguments. -/
def IsShortName (path name : String) : Prop :=
  ∃ base arguments, path.toList = base ++ arguments ∧ '<' ∉ base ∧
    (∀ c ∈ arguments.head?, c = '<') ∧ IsLastName base name.toList

theorem separator_not_prefix {c : Char} {rest : List Char}
    (h : ∀ tail, c = ':' → rest = ':' :: tail → False) : ¬ separator <+: c :: rest := by
  rintro ⟨tail, ht⟩
  obtain ⟨rfl, rfl⟩ := List.cons.inj ht
  exact h tail rfl rfl

/-- What precedes the first separator is the shortest part that a separator follows. -/
theorem untilColons_spec (l : List Char) :
    (¬ separator <:+: l ∧ untilColons l = l) ∨
      (untilColons l ++ separator <+: l ∧
        ∀ other, other ++ separator <+: l → untilColons l <+: other) := by
  fun_induction untilColons l with
  | case1 => exact .inl ⟨by simp [separator], rfl⟩
  | case2 rest => exact .inr ⟨⟨rest, rfl⟩, fun _ _ => List.nil_prefix⟩
  | case3 c rest hsep ih =>
      have hnot : ¬ separator <+: c :: rest := separator_not_prefix hsep
      rcases ih with ⟨hnone, hall⟩ | ⟨hfirst, hleast⟩
      · exact .inl ⟨fun h => (List.infix_cons_iff.mp h).elim hnot hnone, congrArg (c :: ·) hall⟩
      · refine .inr ⟨(List.prefix_cons_inj c).mpr hfirst, fun other ho => ?_⟩
        cases other with
        | nil => exact absurd ho hnot
        | cons d other =>
            obtain ⟨rfl, hrest⟩ := List.cons_prefix_cons.mp ho
            exact (List.prefix_cons_inj d).mpr (hleast other hrest)

/-- The last separator is the first one from the right, as it reads the same from both sides. -/
theorem isLastName_untilColons (path : List Char) :
    IsLastName path (untilColons path.reverse).reverse := by
  rcases untilColons_spec path.reverse with ⟨hnone, hall⟩ | ⟨hfirst, hleast⟩
  · refine .inl ⟨fun h => hnone (List.reverse_infix.mpr h), ?_⟩
    rw [hall, List.reverse_reverse]
  · refine .inr ⟨?_, fun other ho => ?_⟩
    · rw [← List.reverse_prefix]
      simpa [separator] using hfirst
    · rw [← List.reverse_prefix, List.reverse_reverse]
      refine hleast _ ?_
      simpa [separator] using List.reverse_prefix.mpr ho

theorem isShortName_shortTypeName (path : String) : IsShortName path (shortTypeName path) := by
  refine ⟨path.toList.takeWhile (· ≠ '<'), path.toList.dropWhile (· ≠ '<'),
    List.takeWhile_append_dropWhile.symm, fun h => ?_, fun c hc => ?_, ?_⟩
  · simpa using List.mem_takeWhile_imp h
  · have hhead := List.head?_dropWhile_not (· ≠ '<') path.toList
    rw [Option.mem_def.mp hc] at hhead
    simpa using hhead
  · rw [shortTypeName, String.toList_ofList]
    exact isLastName_untilColons _

/-! ### Levels -/

/-- **All sources** of an error come below the levels that are there already. -/
theorem levels_withSources (f : Failure) (e : SourcedError) :
    (f.withSources e).levels = f.levels ++ e.sources.map (Level.mk sourceKind) := by
  -- one source more is below `f`, and the others come below both
  induction e generalizing f with
  | root text => exact (List.append_nil _).symm
  | stemming text source ih =>
      rw [withSources, ih, levels_withRoot, List.append_assoc]
      rfl

theorem levels_ofError (typePath : String) (e : SourcedError) :
    (ofError typePath e).levels =
      ⟨shortTypeName typePath, e.text⟩ :: e.sources.map (Level.mk sourceKind) :=
  levels_withSources _ e

/-! ### From cause to cause -/

/-- Going from cause to cause, one meets `causes` below the failure, and then there is none. -/
inductive Traversal : Failure → List Failure → Prop where
  | stop {f : Failure} (h : f.cause? = none) : Traversal f []
  | next {f cause : Failure} {causes : List Failure} (h : f.cause? = some cause)
      (t : Traversal cause causes) : Traversal f (cause :: causes)

theorem exists_traversal (f : Failure) : ∃ causes, f.Traversal causes := by
  obtain ⟨top, causes⟩ := f
  induction causes generalizing top with
  | nil => exact ⟨[], .stop rfl⟩
  | cons next causes ih =>
      obtain ⟨below, t⟩ := ih next
      exact ⟨_, .next rfl t⟩

namespace Traversal

variable {f : Failure} {causes : List Failure}

theorem levels_eq (t : f.Traversal causes) : f.levels = f.top :: causes.map top := by
  induction t with
  | stop h =>
      rw [Failure.levels_eq, h]
      rfl
  | next h _ ih => rw [Failure.levels_eq, h, Option.elim_some, ih, List.map_cons]

/-- The sources of a failure that is taken for an error are its causes. -/
theorem sources_asError (t : f.Traversal causes) : f.asError.sources = causes.map describe := by
  induction t with
  | stop h =>
      rw [asError_eq, h]
      rfl
  | @next f cause causes h _ ih =>
      calc f.asError.sources = cause.asError.text :: cause.asError.sources := by
            rw [asError_eq, h]
            rfl
        _ = (cause :: causes).map describe := by rw [text_asError, ih, List.map_cons]

end Traversal

/-! ### Decisions -/

/-- Whatever is asked of all kinds in turn is asked of the first one and then of `source`. -/
theorem findSome?_inspected {α : Type} {f : Failure} {n : Nat}
    (h : f.kinds = f.kind :: List.replicate n sourceKind) (look : String → Option α) :
    (f.inspected true).findSome? look =
      (look f.kind).or (if n = 0 then none else look sourceKind) := by
  change f.kinds.findSome? look = _
  rw [h, List.findSome?_cons, List.findSome?_replicate]
  cases look f.kind <;> rfl

/-! ### All errors -/

/-- What the failure says that an error of the type amounts to. -/
structure Unfolds (typePath : String) (e : SourcedError) (f : Failure) : Prop where
  length : f.levels.length = e.sources.length + 1
  messages : f.levels.map Level.message = e.text :: e.sources
  name : IsShortName typePath f.kind
  kinds : f.kinds = f.kind :: List.replicate e.sources.length sourceKind
  /-- The causes in turn are the sources, also for whoever takes the failure for an error. -/
  traversal : ∃ causes, f.Traversal causes ∧
    causes.map top = e.sources.map (Level.mk sourceKind) ∧
    f.asError.sources = causes.map describe
  classified : ∀ c : Classifier, c.classifyWith true f =
    ((c.verdict? f.kind).or
      (if e.sources.length = 0 then none else c.verdict? sourceKind)).getD c.fallback
  routed : ∀ r : Routing, r.suffixFor? f true =
    (r.suffixOf? f.kind).or (if e.sources.length = 0 then none else r.suffixOf? sourceKind)

/-- It is enough to know the levels of the failure. -/
theorem Unfolds.of_levels {typePath : String} {e : SourcedError} {f : Failure}
    (hname : IsShortName typePath f.kind)
    (hlevels : f.levels = ⟨f.kind, e.text⟩ :: e.sources.map (Level.mk sourceKind)) :
    f.Unfolds typePath e := by
  have hkinds : f.kinds = f.kind :: List.replicate e.sources.length sourceKind := by
    rw [Failure.kinds, hlevels]
    simp [Function.comp_def, List.map_const']
  obtain ⟨causes, t⟩ := exists_traversal f
  have hcauses : causes.map top = e.sources.map (Level.mk sourceKind) :=
    (List.cons.inj (t.levels_eq.symm.trans hlevels)).2
  exact {
    length := by rw [hlevels, List.length_cons, List.length_map]
    messages := by simp [hlevels, Function.comp_def]
    name := hname
    kinds := hkinds
    traversal := ⟨causes, t, hcauses, t.sources_asError⟩
    classified := fun c => by rw [Classifier.classifyWith, findSome?_inspected hkinds]
    routed := fun r => findSome?_inspected hkinds r.suffixOf? }

/-- **Every error** becomes a failure with a level for each of its sources. -/
theorem unfolds_ofError (typePath : String) (e : SourcedError) :
    (ofError typePath e).Unfolds typePath e := by
  have hlevels := levels_ofError typePath e
  have hkind : (ofError typePath e).kind = shortTypeName typePath :=
    congrArg Level.kind (List.cons.inj hlevels).1
  refine .of_levels ?_ (hkind ▸ hlevels)
  rw [hkind]
  exact isShortName_shortTypeName typePath

/-- Two sources come below the error in their order. -/
example : (ofError "shop::Wrapper<shop::Order>"
    (.stemming "no sale" (.stemming "no stock" (.root "no answer")))).levels =
      [⟨"Wrapper", "no sale"⟩, ⟨"source", "no stock"⟩, ⟨"source", "no answer"⟩] := by
  decide

end Failure

end Redelivery
