/-!
# Failure

Why a record was not processed: a kind, a message and a chain of causes, each of which is again a
kind and a message.  A chain is never empty; its levels run from the outermost to the root
(`Failure.levels`).

An error of another origin becomes a failure under the short name of its type, and goes through its
sources from the nearest one on (`Failure.ofError`).  Each of them is handed down from cause to
cause to the innermost level there is (`Failure.withRoot`), so that it ends up below those before
it (`levels_withRoot`).  A failure is an error as well, which stems from its cause
(`Failure.asError`).
-/

namespace Redelivery

/-- One level of a failure. -/
structure Level where
  kind : String
  message : String
  deriving Repr, DecidableEq

/-- A failure: its outermost level and the causes below it, outermost first. -/
structure Failure where
  top : Level
  causes : List Level
  deriving Repr, DecidableEq

/-- An error of any origin: its text, and the error it stems from if it has one. -/
inductive SourcedError where
  | root (text : String)
  | stemming (text : String) (source : SourcedError)
  deriving Repr

namespace SourcedError

/-- The text of an error. -/
def text : SourcedError → String
  | .root t => t
  | .stemming t _ => t

/-- The texts of the errors that it stems from, nearest first. -/
def sources : SourcedError → List String
  | .root _ => []
  | .stemming _ s => s.text :: s.sources

end SourcedError

namespace Failure

/-- A failure without a cause. -/
def new (kind message : String) : Failure := ⟨⟨kind, message⟩, []⟩

/-- The levels of a failure, outermost first. -/
def levels (f : Failure) : List Level := f.top :: f.causes

/-- The kind of the outermost level. -/
def kind (f : Failure) : String := f.top.kind

/-- The message of the outermost level. -/
def message (f : Failure) : String := f.top.message

/-- The kinds of all levels, outermost first. -/
def kinds (f : Failure) : List String := f.levels.map Level.kind

/-- The kinds that a decision looks at: those of all levels, or only the outermost one. -/
def inspected (f : Failure) (traverse : Bool) : List String :=
  if traverse then f.kinds else [f.kind]

/-- The failure that caused this one. -/
def cause? (f : Failure) : Option Failure :=
  match f.causes with
  | [] => none
  | top :: causes => some ⟨top, causes⟩

/-- Below the outermost level are those of the cause. -/
theorem levels_eq (f : Failure) : f.levels = f.top :: f.cause?.elim [] levels := by
  rcases f with ⟨top, _ | ⟨next, causes⟩⟩ <;> rfl

/-- The failure with `cause` as its direct cause, in place of any other. -/
def causedBy (f cause : Failure) : Failure := ⟨f.top, cause.levels⟩

/-- A level and its causes, with `root` as the cause of the innermost one. -/
def attachRoot (root : Failure) : Level → List Level → Failure
  | top, [] => (⟨top, []⟩ : Failure).causedBy root
  | top, next :: causes => (⟨top, next :: causes⟩ : Failure).causedBy (attachRoot root next causes)

/-- The failure with `root` as the cause of its innermost level. -/
def withRoot (f root : Failure) : Failure := attachRoot root f.top f.causes

/-- What is to be the root goes on to the cause, if there is one. -/
theorem withRoot_eq (f root : Failure) :
    f.withRoot root = f.causedBy (match f.cause? with
      | some cause => cause.withRoot root
      | none => root) := by
  rcases f with ⟨top, _ | ⟨next, causes⟩⟩ <;> rfl

@[simp] theorem levels_causedBy (f g : Failure) : (f.causedBy g).levels = f.top :: g.levels := rfl

@[simp] theorem levels_withRoot (f root : Failure) :
    (f.withRoot root).levels = f.levels ++ root.levels := by
  obtain ⟨top, causes⟩ := f
  induction causes generalizing top with
  | nil => rfl
  | cons next causes ih =>
      rw [withRoot_eq, levels_causedBy]
      exact congrArg (top :: ·) (ih next)

/-- The text of a list of levels, each in the parentheses of the one above it. -/
def describeLevels : Level → List Level → String
  | l, [] => l.kind ++ ": " ++ l.message
  | l, c :: cs => l.kind ++ ": " ++ l.message ++ " (caused by " ++ describeLevels c cs ++ ")"

/-- The text of a failure: its kind and message, and the text of its cause. -/
def describe (f : Failure) : String := describeLevels f.top f.causes

/-- A level and its causes as an error. -/
def levelsAsError : Level → List Level → SourcedError
  | l, [] => .root (describeLevels l [])
  | l, c :: cs => .stemming (describeLevels l (c :: cs)) (levelsAsError c cs)

/-- The failure as an error of its own, which stems from its cause. -/
def asError (f : Failure) : SourcedError := levelsAsError f.top f.causes

theorem asError_eq (f : Failure) :
    f.asError = match f.cause? with
      | none => .root f.describe
      | some cause => .stemming f.describe cause.asError := by
  rcases f with ⟨top, _ | ⟨next, causes⟩⟩ <;> rfl

@[simp] theorem text_asError (f : Failure) : f.asError.text = f.describe := by
  rcases f with ⟨top, _ | ⟨next, causes⟩⟩ <;> rfl

/-- What precedes the first `::`, which is all if there is none. -/
def untilColons : List Char → List Char
  | [] => []
  | ':' :: ':' :: _ => []
  | c :: rest => c :: untilColons rest

/-- The last name of a path, without type arguments: what follows the last `::` before the first
`<`. -/
def shortTypeName (path : String) : String :=
  let base := path.toList.takeWhile (· ≠ '<')
  String.ofList (untilColons base.reverse).reverse

/-- The kind of a level that stands for the source of an error. -/
def sourceKind : String := "source"

/-- The failure with the sources of an error at its root, one after the other. -/
def withSources (f : Failure) : SourcedError → Failure
  | .root _ => f
  | .stemming _ source => (f.withRoot (.new sourceKind source.text)).withSources source

/-- The failure that an error of the given type amounts to. -/
def ofError (typePath : String) (e : SourcedError) : Failure :=
  (Failure.new (shortTypeName typePath) e.text).withSources e

end Failure

end Redelivery
