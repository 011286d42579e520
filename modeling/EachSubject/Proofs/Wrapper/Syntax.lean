import EachSubject.Proofs.Wrapper.Lines
import EachSubject.Source.Parser.Statement

/-!
# The syntax tree of a wrapper class

What each printed part stands for as a tree. The parameters of an override are arranged by the parser as
they were checked before they were printed.
-/

namespace EachSubject

open Source Source.Grammar

/-- How a parameter of a kind is declared. -/
def ParameterKind.mode : ParameterKind → ParameterMode
  | positional => .positional
  | extraPositional => .extraPositional
  | keywordOnly => .keywordOnly
  | extraKeyword => .extraKeyword

namespace Wrapper

namespace Parameter

variable (p : Parameter)

/-- The declared type. -/
def hint : Option Expr := p.typeText.bind fun typeText => expressionOf (annotatedText typeText p.annotations)

/-- The default. -/
def value : Option Expr := p.default.bind expressionOf

/-- The parameter as it is declared. -/
def tree : Source.Parameter := .mk (Text.normalized p.name) p.kind.mode p.hint p.value

/-- The item of the parameter list. -/
def item : ParameterItem :=
  match p.kind with
  | .extraPositional => .extraPositional (Text.normalized p.name) p.hint
  | .extraKeyword => .extraKeyword (Text.normalized p.name) p.hint
  | _ => .plain (Text.normalized p.name) p.hint p.value

/-- The argument that passes the parameter on. -/
def passed : Source.Argument :=
  let name := Text.normalized p.name
  match p.kind with
  | .positional => .positional (.name name)
  | .extraPositional => .spread (.name name)
  | .keywordOnly => .keyword name (.name name)
  | .extraKeyword => .spreadKeywords (.name name)

end Parameter

/-- The items of a parameter list, with the lone star. -/
def parameterItems (starred : Bool) : List Parameter → List ParameterItem
  | [] => []
  | p :: rest =>
    match p.kind with
    | .extraPositional => p.item :: parameterItems true rest
    | .keywordOnly =>
      if starred then p.item :: parameterItems true rest
      else .star :: p.item :: parameterItems true rest
    | _ => p.item :: parameterItems starred rest

/-- A parameter of this kind may follow one of the kind before, if there is one. -/
def mayFollow (last : Option ParameterKind) (kind : ParameterKind) : Prop :=
  ∀ before ∈ last, before.rank ≤ kind.rank ∧ ¬(kind.isVariadic = true ∧ kind = before)

/-- The kinds of the parameters do not go back, variadic ones take no default and do not repeat, and a
    positional one with a default is not followed by one without. -/
def InOrder (last : Option ParameterKind) (defaulted : Bool) : List Parameter → Prop
  | [] => True
  | p :: rest =>
    mayFollow last p.kind ∧ (p.kind.isVariadic = true → p.default = none) ∧
    (p.kind = .positional → p.value = none → defaulted = false) ∧
    InOrder (some p.kind) (defaulted || (p.kind = .positional && p.value.isSome)) rest

/-- What the parser keeps of a list agrees with the last kind. -/
private structure Follows (progress : ParameterProgress) (last : Option ParameterKind)
    (starred defaulted : Bool) : Prop where
  pending : progress.pending = false
  same : progress.starred = starred ∧ progress.defaulted = defaulted
  closes : progress.closed = true → last = some .extraKeyword
  stars : starred = true → ∃ before ∈ last, 1 ≤ before.rank

private theorem arranged : ∀ {parameters : List Parameter} {progress : ParameterProgress}
    {last : Option ParameterKind} {starred defaulted : Bool}, Follows progress last starred defaulted →
      InOrder last defaulted parameters →
      ∃ done, (parameterItems starred parameters).foldlM ParameterProgress.add? progress = some done ∧
        done.pending = false ∧ done.done = progress.done ++ parameters.map Parameter.tree
  | [], progress, _, _, _, follows, _ => ⟨progress, rfl, follows.pending, by simp⟩
  | p :: rest, progress, last, starred, defaulted, follows, inOrder => by
    obtain ⟨follow, noDefault, defaults, behind⟩ := inOrder
    obtain ⟨pending, ⟨rfl, rfl⟩, closes, stars⟩ := follows
    have isOpen : progress.closed = false := by
      cases closed : progress.closed with
      | false => rfl
      | true =>
        obtain ⟨upward, repeats⟩ := follow _ (closes closed)
        cases kind : p.kind <;> simp [kind, ParameterKind.rank, ParameterKind.isVariadic] at upward repeats
    have unstarred : p.kind.rank = 0 ∨ p.kind = .extraPositional → progress.starred = false := by
      intro early
      cases starred : progress.starred with
      | false => rfl
      | true =>
        obtain ⟨before, isLast, late⟩ := stars starred
        obtain ⟨upward, repeats⟩ := follow before isLast
        rcases early with first | second
        · omega
        · rw [second] at upward repeats
          cases before <;> simp_all [ParameterKind.rank, ParameterKind.isVariadic]
    have step : ∀ {item : ParameterItem} {after : ParameterProgress} {starred : Bool},
        progress.add? item = some after → after.done = progress.done ++ [p.tree] →
        Follows after (some p.kind) starred
          (progress.defaulted || (p.kind = .positional && p.value.isSome)) →
        ∃ done, (item :: parameterItems starred rest).foldlM ParameterProgress.add? progress = some done ∧
          done.pending = false ∧ done.done = progress.done ++ (p :: rest).map Parameter.tree := by
      intro item after starred added same follows
      obtain ⟨done, folded, settled, whole⟩ := arranged follows behind
      exact ⟨done, by rw [List.foldlM_cons, added]; exact folded, settled, by simp [whole, same]⟩
    rw [parameterItems]
    cases kind : p.kind with
    | positional =>
      have unstarred := unstarred (.inl (by rw [kind]; rfl))
      have complete : (progress.defaulted && p.value.isNone) = false := by
        cases given : p.value with
        | none => rw [defaults kind given]; rfl
        | some value => simp
      have added : progress.add? p.item = some { progress with
          done := progress.done ++ [p.tree], defaulted := progress.defaulted || p.value.isSome } := by
        simp only [Parameter.item, Parameter.tree, kind, ParameterKind.mode, ParameterProgress.add?, isOpen,
          unstarred, complete]
        rfl
      exact step added rfl ⟨pending, ⟨rfl, by simp [kind]⟩, by simp [isOpen], by simp [unstarred]⟩
    | extraPositional =>
      have unstarred := unstarred (.inr kind)
      have noValue : p.value = none := by
        rw [Parameter.value, noDefault (by rw [kind]; rfl)]
        rfl
      have added : progress.add? p.item = some { progress with
          done := progress.done ++ [p.tree], starred := true } := by
        simp only [Parameter.item, Parameter.tree, kind, ParameterKind.mode, ParameterProgress.add?, isOpen,
          unstarred, noValue]
        rfl
      exact step added rfl ⟨pending, ⟨rfl, by simp [kind]⟩, by simp [isOpen],
        fun _ => ⟨_, rfl, by rw [kind]; decide⟩⟩
    | keywordOnly =>
      have follows : Follows { progress with done := progress.done ++ [p.tree], starred := true, pending := false }
          (some p.kind) true (progress.defaulted || (p.kind = .positional && p.value.isSome)) :=
        ⟨rfl, ⟨rfl, by simp [kind]⟩, by simp [isOpen], fun _ => ⟨_, rfl, by rw [kind]; decide⟩⟩
      cases starred : progress.starred with
      | true =>
        refine step ?_ rfl follows
        simp only [Parameter.item, Parameter.tree, kind, ParameterKind.mode, ParameterProgress.add?, isOpen,
          starred]
        rfl
      | false =>
        -- the lone star comes first, and needs the parameter behind it
        obtain ⟨done, folded, settled, whole⟩ := arranged follows behind
        have starredFirst : progress.add? .star = some { progress with starred := true, pending := true } := by
          simp [ParameterProgress.add?, isOpen, starred]
        have added : ParameterProgress.add? { progress with starred := true, pending := true } p.item =
            some { progress with
              done := progress.done ++ [p.tree], starred := true, pending := false } := by
          simp only [Parameter.item, Parameter.tree, kind, ParameterKind.mode, ParameterProgress.add?, isOpen]
          rfl
        refine ⟨done, ?_, settled, by simp [whole]⟩
        rw [if_neg (by decide), List.foldlM_cons, starredFirst, Option.bind_eq_bind, Option.bind_some,
          List.foldlM_cons, added]
        exact folded
    | extraKeyword =>
      have noValue : p.value = none := by
        rw [Parameter.value, noDefault (by rw [kind]; rfl)]
        rfl
      have added : progress.add? p.item = some { progress with
          done := progress.done ++ [p.tree], closed := true } := by
        simp only [Parameter.item, Parameter.tree, kind, ParameterKind.mode, ParameterProgress.add?, isOpen,
          pending, noValue]
        rfl
      exact step added rfl ⟨pending, ⟨rfl, by simp [kind]⟩, fun _ => by rw [kind],
        fun _ => ⟨_, rfl, by rw [kind]; decide⟩⟩

/-- Parameters in order are arranged as they stand, behind the first one. -/
theorem arrangeParameters_eq {parameters : List Parameter} (inOrder : InOrder none false parameters) :
    arrangeParameters? (.plain "self" none none :: parameterItems false parameters) =
      some (.mk "self" .positional none none :: parameters.map Parameter.tree) := by
  let first : ParameterProgress := ⟨[.mk "self" .positional none none], false, false, false, false, false⟩
  have follows : Follows first none false false := ⟨rfl, ⟨rfl, rfl⟩, by simp [first], by simp⟩
  obtain ⟨done, folded, settled, whole⟩ := arranged follows inOrder
  have added : ParameterProgress.add? .start (.plain "self" none none) = some first := rfl
  rw [arrangeParameters?, List.foldlM_cons, added, Option.bind_eq_bind, Option.bind_some, folded]
  simp [settled, whole, first]

namespace Override

variable (m : Override)

/-- The declaration of the element. -/
def itemTree : Stmt :=
  .annotate (.name (Text.normalized m.itemLocal)) ((expressionOf m.targetType).getD (.literal .none)) none

/-- The making of the element's subject. -/
def subjectTree : Stmt :=
  .annotate (.name (Text.normalized m.subjectLocal)) (.name (Text.normalized m.subjectType))
    (some (.call (.attribute (.attribute (.name "self") "_subject_factory") "get_subject")
      [.positional (.attribute (.name "self") "failure_strategy"),
       .positional (.name (Text.normalized m.itemLocal))]))

/-- The call of the subject's method. -/
def callTree : Expr :=
  .call (.attribute (.name (Text.normalized m.subjectLocal)) (Text.normalized m.name))
    (m.parameters.map Parameter.passed)

/-- The loop over the elements. -/
def loopTree : Stmt :=
  .for false (.name (Text.normalized m.itemLocal)) (.attribute (.name "self") "_data")
    [m.subjectTree, .expression (if m.isAsync then .awaited m.callTree else m.callTree)] []

/-- The statements of an override. -/
def body : List Stmt := [m.itemTree, m.loopTree]

/-- An override as a statement of its class. -/
def tree : Stmt :=
  .function [.name "override"] m.isAsync (Text.normalized m.name)
    (.mk "self" .positional none none :: m.parameters.map Parameter.tree) (m.returns.bind expressionOf)
    m.body

end Override

namespace Class

variable (c : Class)

/-- The imports that all wrappers share. -/
def importTrees : List Stmt :=
  [.importNames 0 ["__future__"] (some [("annotations", none)]),
   .importNames 0 ["collections", "abc"] (some [("Iterable", none)]),
   .importNames 0 ["typing"] (some [("Annotated", none)]),
   .importNames 0 ["typing_extensions"] (some [("override", none)]),
   .importNames 0 ["iterwrap", "subject"] (some [("FailureStrategy", none), ("SubjectFactory", none)])]

/-- The import of the subject class. -/
def packageTree : Stmt :=
  .importNames 0 ((Text.pathPieces c.package).map Text.normalized)
    (some [(Text.normalized c.subjectName, none)])

/-- The parameters of the constructor. -/
def constructorParameters : List Source.Parameter :=
  [.mk "self" .positional none none,
   .mk "failure_strategy" .positional (some (.name "FailureStrategy")) none,
   .mk "subject_factory" .positional (some (.name "SubjectFactory")) none,
   .mk "data" .positional (some (.subscript (.name "Iterable")
     (indexOf ((expressionOf c.targetType).getD (.literal .none))))) none]

/-- The constructor. -/
def constructorTree : Stmt :=
  .function [] false "__init__" c.constructorParameters (some (.literal .none))
    [.expression (.call (.attribute (.call (.name "super") []) "__init__")
       [.positional (.name "failure_strategy"), .positional (.literal .none)]),
     .assign [.attribute (.name "self") "_subject_factory"] (.name "subject_factory"),
     .assign [.attribute (.name "self") "_data"] (.name "data")]

/-- The class. -/
def tree : Stmt :=
  .class [] (Text.normalized c.name) [.positional (.name (Text.normalized c.subjectName))]
    (c.constructorTree :: c.overrides.map Override.tree)

/-- The statements of a wrapper module. -/
def module : Module := importTrees ++ [c.packageTree, c.tree]

end Class

end Wrapper

end EachSubject
