import EachSubject.Execution.Statement
import EachSubject.Proofs.Binding
import EachSubject.Proofs.Outcome
import EachSubject.Proofs.Run
import EachSubject.Proofs.Wrapper.Naming
import EachSubject.Proofs.Wrapper.Syntax
import EachSubject.Source.Scope

/-!
# The functions of overrides

What an outline holds is found in its parts. A function is a generator just if one of its parts yields, and
a function that keeps the rules has parameters with different names.

The statements of an override are known as a delegation: each parameter is passed on by its kind, and the
variables leave the parameters alone. A call that binds gives every forward something to pass on.
-/

namespace EachSubject.Source

/-! ## Parts of outlines -/

theorem mem_bodyOutline {owner : String} {s : Stmt} {item : Outline} (inside : item ∈ s.outline owner) :
    ∀ {body : List Stmt}, s ∈ body → item ∈ bodyOutline owner body
  | first :: rest, among => by
    rw [bodyOutline, List.mem_append]
    rcases List.mem_cons.1 among with rfl | among
    · exact .inl inside
    · exact .inr (mem_bodyOutline inside among)

namespace Outline

theorem ownAll_append : ∀ (body more : List Outline), ownAll (body ++ more) = ownAll body ++ ownAll more
  | [], _ => rfl
  | item :: body, more => by
    rw [List.cons_append, ownAll, ownAll, ownAll_append body more, List.append_assoc]

/-! ## Generators -/

@[simp]
theorem isGenerator_append (body more : List Outline) :
    isGenerator (body ++ more) = (isGenerator body || isGenerator more) := by
  simp only [isGenerator, ownAll_append, List.any_append]

section

variable (body : List Outline)

@[simp]
theorem isGenerator_nil : isGenerator [] = false := rfl

@[simp]
theorem isGenerator_reads (name : String) : isGenerator (.reads name :: body) = isGenerator body := rfl

@[simp]
theorem isGenerator_annotates (name : String) : isGenerator (.annotates name :: body) = isGenerator body := rfl

@[simp]
theorem isGenerator_keywords (names : List String) : isGenerator (.keywords names :: body) = isGenerator body :=
  rfl

@[simp]
theorem isGenerator_awaits : isGenerator (.awaits :: body) = isGenerator body := rfl

@[simp]
theorem isGenerator_block (kind : BlockKind) (parameters : List String) (inside : List Outline) :
    isGenerator (.block kind parameters inside :: body) = isGenerator body := rfl

@[simp]
theorem isGenerator_loop (inside : List Outline) :
    isGenerator (.loop inside :: body) = (isGenerator inside || isGenerator body) := by
  simp [isGenerator, ownAll, own]

@[simp]
theorem isGenerator_bindingOf (owner name : String) :
    isGenerator (bindingOf owner name :: body) = isGenerator body := by
  rw [bindingOf]
  split <;> rfl

@[simp]
theorem isGenerator_needs (condition : Bool) : isGenerator (needs condition) = false := by
  cases condition <;> rfl

end

/-! ## Rules for functions -/

theorem isSound_of_mem {p : Position} {item : Outline} : ∀ {body : List Outline}, areSound p body = true →
    item ∈ body → isSound p item = true
  | first :: rest, sound, among => by
    rw [areSound, Bool.and_eq_true] at sound
    rcases List.mem_cons.1 among with rfl | among
    · exact sound.1
    · exact isSound_of_mem sound.2 among

theorem classBody_sound {p : Position} {body : List Outline}
    (sound : isSound p (.block .classBody [] body) = true) : ∃ inside, areSound inside body = true := by
  rw [isSound, Bool.and_eq_true] at sound
  · exact ⟨_, sound.2⟩
  · rintro _ ⟨⟩
  · rintro _ ⟨⟩

theorem function_distinct {p : Position} {isAsync : Bool} {parameters : List String} {body : List Outline}
    (sound : isSound p (.block (.function isAsync) parameters body) = true) :
    parameters.Pairwise (· ≠ ·) := by
  simp only [isSound, isOrderly, Bool.and_eq_true, decide_eq_true_eq] at sound
  exact sound.1.1.1.1.1

end Outline

/-- In a module that makes sense, the functions of a class have parameters with different names. -/
theorem Module.isSound_distinct {module : Module} (sound : module.isSound = true) {owner : String}
    {decorators : List Expr} {arguments : List Argument} {body : List Stmt}
    (declares : .class decorators owner arguments body ∈ module) {marks : List Expr} {isAsync : Bool}
    {name : String} {parameters : List Parameter} {returns : Option Expr} {statements : List Stmt}
    (holds : .function marks isAsync name parameters returns statements ∈ body) :
    (parameterNames owner parameters).Pairwise (· ≠ ·) := by
  rw [Module.isSound, Bool.and_eq_true] at sound
  have inClass : Outline.block .classBody [] (bodyOutline owner body) ∈ module.outline :=
    mem_bodyOutline (by simp [Stmt.outline]) declares
  have inBody : Outline.block (.function isAsync) (parameterNames owner parameters)
      (bodyOutline owner statements) ∈ bodyOutline owner body :=
    mem_bodyOutline (by simp [Stmt.outline]) holds
  obtain ⟨inside, behind⟩ := Outline.classBody_sound (Outline.isSound_of_mem sound.2 inClass)
  exact Outline.function_distinct (Outline.isSound_of_mem behind inBody)

end EachSubject.Source

namespace EachSubject

open Source

namespace Wrapper

/-! ## Names inside of a class -/

section

variable {owner : String}

/-- A name that does not start with two underscores is the same inside of a class. -/
theorem nameInside_plain {name : String} {c : Char} {rest : List Char} (starts : name.toList = c :: rest)
    (letter : c ≠ '_') : nameInside owner name = name := by
  refine if_neg ?_
  rw [isPrivate, starts]
  simp [Ne.symm letter]

/-- A name inside of a class is itself, or starts with an underscore. -/
theorem nameInside_cases (name : String) :
    nameInside owner name = name ∨ ∃ rest, (nameInside owner name).toList = '_' :: rest := by
  rw [nameInside]
  split
  · dsimp only
    split
    · exact .inl rfl
    · exact .inr ⟨_, by simp only [String.append_assoc, String.toList_append]; rfl⟩
  · exact .inl rfl

end

/-! ## Forwards -/

/-- How a parameter is passed on inside of a class. -/
def Parameter.forward (owner : String) (p : Parameter) : Forward :=
  let name := Text.normalized p.name
  match p.kind with
  | .positional => .positional (nameInside owner name)
  | .extraPositional => .extraPositional (nameInside owner name)
  | .keywordOnly => .keyword name (nameInside owner name)
  | .extraKeyword => .extraKeyword (nameInside owner name)

/-- The delegation of an override. -/
def Override.delegation (owner : String) (m : Override) : Delegation where
  method := nameInside owner (Text.normalized m.name)
  forwards := m.parameters.map (Parameter.forward owner)
  awaits := m.isAsync

/-- The variables of an override have free names, and those of its parameters are in their normal form. -/
structure Override.ChoosesNames (m : Override) : Prop where
  item : m.itemLocal = freeLocal "item" (m.parameters.map (·.name))
  subject : m.subjectLocal = freeLocal "subject" (m.parameters.map (·.name))
  normal : ∀ p ∈ m.parameters, Text.normalized p.name = p.name

/-- The parameter has the name and the mode that are written. -/
def Declares (owner : String) (written : Source.Parameter) (p : FunctionParameter) : Prop :=
  p.name = nameInside owner written.name ∧ p.mode = written.mode

section

variable {m : Override} {owner : String} {own : List FunctionParameter}

/-- A variable of an override is the same inside of a class. -/
private theorem local_same {base : String} (isBase : base ∈ localBases) (taken : List String) :
    nameInside owner (Text.normalized (freeLocal base taken)) = freeLocal base taken := by
  obtain ⟨c, rest, starts, letter⟩ := freeLocal_letter isBase taken
  rw [(freeLocal_plain isBase taken).normalized]
  exact nameInside_plain starts letter

private theorem self_same : nameInside owner "self" = "self" :=
  nameInside_plain (c := 's') rfl (by decide)

/-- No parameter inside of the class has the name of a variable. -/
private theorem parameter_ne_local (chosen : m.ChoosesNames) {p : Parameter} (among : p ∈ m.parameters)
    {base : String} (isBase : base ∈ localBases) :
    nameInside owner (Text.normalized p.name) ≠ freeLocal base (m.parameters.map (·.name)) := by
  intro same
  rw [chosen.normal p among] at same
  rcases nameInside_cases p.name with unchanged | ⟨rest, mangled⟩
  · rw [unchanged] at same
    exact freeLocal_free base _ (by rw [← same]; exact List.mem_map_of_mem among)
  · obtain ⟨c, more, starts, letter⟩ := freeLocal_letter isBase (m.parameters.map (·.name))
    rw [same, starts] at mangled
    exact letter (List.cons.inj mangled).1

private theorem keepsParameters_own (chosen : m.ChoosesNames) (declared : List.Forall₂ (Declares owner)
    (.mk "self" .positional none none :: m.parameters.map Parameter.tree) own) :
    EachSubject.Override.keepsParameters own m.itemLocal m.subjectLocal = true := by
  have apart : ∀ {base}, base ∈ localBases → ∀ q ∈ own,
      q.name ≠ freeLocal base (m.parameters.map (·.name)) := by
    intro base isBase q among
    obtain ⟨written, inside, same, _⟩ := mem_right_of_forall₂ declared among
    rw [same]
    rcases List.mem_cons.1 inside with rfl | inside
    · rw [show (Source.Parameter.mk "self" .positional none none).name = "self" from rfl, self_same]
      exact (freeLocal_ne_word isBase _ (by decide)).symm
    · obtain ⟨p, among, rfl⟩ := List.mem_map.1 inside
      exact parameter_ne_local chosen among isBase
  rw [EachSubject.Override.keepsParameters, Bool.and_eq_true, List.all_eq_true, chosen.item, chosen.subject]
  refine ⟨by simpa using freeLocal_ne _, fun q among => ?_⟩
  simpa using ⟨apart (by decide) q among, apart (by decide) q among⟩

private theorem forwards_passed : ∀ parameters : List Parameter,
    EachSubject.Override.forwards? owner (parameters.map Parameter.passed) =
      some (parameters.map (Parameter.forward owner))
  | [] => rfl
  | p :: rest => by
    have behind := forwards_passed rest
    rw [List.map_cons, List.map_cons, Parameter.passed, Parameter.forward]
    cases p.kind <;> simp only [EachSubject.Override.forwards?, behind] <;> rfl

private theorem declared_mem (declared : List.Forall₂ (Declares owner)
    (.mk "self" .positional none none :: m.parameters.map Parameter.tree) own) {p : Parameter}
    (among : p ∈ m.parameters) :
    ∃ q ∈ own, q.name = nameInside owner (Text.normalized p.name) ∧ q.mode = p.kind.mode := by
  obtain ⟨q, inside, name, mode⟩ := mem_left_of_forall₂ declared
    (List.mem_cons_of_mem _ (List.mem_map_of_mem among))
  rw [Parameter.tree] at name mode
  exact ⟨q, inside, name, mode⟩

private theorem fits_own (distinct : Distinct own) (declared : List.Forall₂ (Declares owner)
    (.mk "self" .positional none none :: m.parameters.map Parameter.tree) own) {p : Parameter}
    (among : p ∈ m.parameters) : EachSubject.Override.fits own (p.forward owner) = true := by
  obtain ⟨q, inside, name, mode⟩ := declared_mem declared among
  have found := find?_of_distinct distinct inside
  rw [name] at found
  rw [Parameter.forward]
  cases kind : p.kind <;> rw [kind] at mode <;>
    simp [EachSubject.Override.fits, EachSubject.Override.fits.holdsOne, EachSubject.Override.fits.mode?, found,
      mode, ParameterKind.mode]

/-- The statements of an override are known as its delegation. -/
theorem body?_delegate {definer : ClassName} (chosen : m.ChoosesNames) (distinct : Distinct own)
    (declared : List.Forall₂ (Declares definer.path)
      (.mk "self" .positional none none :: m.parameters.map Parameter.tree) own) :
    EachSubject.Override.body? definer own m.body = some (.delegate (m.delegation definer.path)) := by
  have first : (own.map (·.name)).head? = some "self" := by
    cases declared with
    | cons same _ => exact congrArg some (same.1.trans self_same)
  have item : nameInside definer.path (Text.normalized m.itemLocal) = m.itemLocal := by
    rw [chosen.item]
    exact local_same (by decide) _
  have subject : nameInside definer.path (Text.normalized m.subjectLocal) = m.subjectLocal := by
    rw [chosen.subject]
    exact local_same (by decide) _
  have keeps := keepsParameters_own chosen declared
  have fits : (m.delegation definer.path).forwards.all (EachSubject.Override.fits own) = true := by
    rw [List.all_eq_true]
    intro forward inside
    obtain ⟨p, among, rfl⟩ := List.mem_map.1 inside
    exact fits_own distinct declared among
  have calls : ∀ awaits, EachSubject.Override.callDelegation? definer.path (Text.normalized m.subjectLocal)
      awaits m.callTree = some { m.delegation definer.path with awaits } := by
    intro awaits
    rw [Override.callTree, EachSubject.Override.callDelegation?, forwards_passed]
    simp [Override.delegation]
  have last : EachSubject.Override.statementDelegation? definer.path (Text.normalized m.subjectLocal)
      (.expression (if m.isAsync then .awaited m.callTree else m.callTree)) =
        some (m.delegation definer.path) := by
    cases isAsync : m.isAsync with
    | true =>
      rw [if_pos rfl, EachSubject.Override.statementDelegation?, calls, Override.delegation, isAsync]
    | false =>
      have calls := calls false
      rw [Override.delegation, isAsync] at *
      exact calls
  have known : EachSubject.Override.delegation? definer.path own m.body = some (m.delegation definer.path) := by
    rw [Override.body, Override.itemTree, Override.loopTree, Override.subjectTree,
      EachSubject.Override.delegation?, item, subject, keeps, last, Option.filter_some, if_pos fits]
    refine if_pos ?_
    simp [EachSubject.Override.makesSubject, EachSubject.Override.dotted?]
  rw [EachSubject.Override.body?, known]
  simp only [first]
  rfl

/-- The object that an override is called on is received as such. -/
theorem self_received (declared : List.Forall₂ (Declares owner)
    (.mk "self" .positional none none :: m.parameters.map Parameter.tree) own) {arguments : Arguments}
    (received : List.Forall₂ Receives own arguments) :
    ∃ self, arguments.lookup "self" = some (.one self) := by
  match own, arguments, declared, received with
  | p :: _, (name, argument) :: _, .cons ⟨same, mode⟩ _, .cons ⟨named, suits⟩ _ =>
    have isSelf : name = "self" := named.trans (same.trans self_same)
    rw [show p.mode = .positional from mode] at suits
    cases argument with
    | one value => exact ⟨value, by simp [isSelf]⟩
    | extra values => exact False.elim suits
    | extraKeywords entries => exact False.elim suits

/-- A call that binds gives every forward something to pass on. -/
theorem forwards_call (distinct : Distinct own) (declared : List.Forall₂ (Declares owner)
    (.mk "self" .positional none none :: m.parameters.map Parameter.tree) own) {arguments : Arguments}
    (received : List.Forall₂ Receives own arguments) :
    ∃ passed, Forward.call? arguments (m.delegation owner).forwards = some passed := by
  refine Option.isSome_iff_exists.1 (Forward.call?_isSome fun forward inside => ?_)
  obtain ⟨p, among, rfl⟩ := List.mem_map.1 inside
  obtain ⟨q, inside, name, mode⟩ := declared_mem declared among
  obtain ⟨argument, found, suits⟩ := lookup_of_distinct distinct received inside
  rw [name] at found
  rw [Parameter.forward]
  cases kind : p.kind <;> rw [kind] at mode <;> rw [mode] at suits <;> cases argument <;>
    first | exact False.elim suits | simp only [Forward.pass?, found, Option.isSome_some]

/-! ## The function -/

private theorem passed_isGenerator (owner : String) : ∀ parameters : List Parameter,
    Outline.isGenerator (argumentsOutline owner (parameters.map Parameter.passed)) = false
  | [] => rfl
  | p :: rest => by
    have behind := passed_isGenerator owner rest
    rw [List.map_cons, Parameter.passed]
    cases p.kind <;> simp [argumentsOutline, Expr.outline, behind]

/-- An override yields nothing. -/
theorem body_isGenerator (owner : String) :
    Outline.isGenerator (bodyOutline owner m.body) = false := by
  have passed := passed_isGenerator owner m.parameters
  rw [Override.body, Override.itemTree, Override.loopTree, Override.subjectTree, Override.callTree]
  cases m.isAsync <;>
    simp [bodyOutline, Stmt.outline, Expr.outline, Expr.targetOutline, optionalOutline, argumentsOutline, passed]

end

/-- The body of a class of a module runs in the frame. -/
structure InClass (f : Frame) (name : String) : Prop where
  kind : f.kind = .classBody
  owner : f.owner = name
  definer : ∃ definer, f.definer = some definer ∧ definer.path = name

/-- The body of a class at the top of a module runs in a frame of the class. -/
theorem classFrame_inClass {f inner : Frame} {name : String} {body : List Stmt} {store store' : Store}
    (top : f.kind = .module) (made : (Engine.classFrame f name body).start store = (.ok inner, store')) :
    InClass inner name := by
  have path : f.pathOf name = name := by rw [Frame.pathOf, top]
  unfold Engine.classFrame at made
  obtain ⟨_, _, _, made⟩ := Run.bind_inv made
  obtain ⟨_, _, _, made⟩ := Run.bind_inv made
  obtain ⟨_, _, _, made⟩ := Run.bind_inv made
  dsimp only at made
  split at made
  · obtain ⟨_, _, _, made⟩ := Run.bind_inv made
    obtain ⟨_, _, _, made⟩ := Run.bind_inv made
    obtain ⟨_, _, _, made⟩ := Run.bind_inv made
    cases made
    exact ⟨rfl, rfl, _, rfl, path⟩
  · obtain ⟨_, _, _, made⟩ := Run.bind_inv made
    obtain ⟨_, _, _, made⟩ := Run.bind_inv made
    cases made
    exact ⟨rfl, rfl, _, rfl, path⟩

section

variable (m : Override) (f : Frame) (defaults : List (Option Value))

/-- The parameters of an override with the values of their defaults. -/
def Override.ownParameters : List FunctionParameter :=
  ((Source.Parameter.mk "self" .positional none none :: m.parameters.map Parameter.tree).zip defaults).map
    fun (p, default) => Engine.parameterOf f p default

/-- The function of an override, as the body of its class makes it. -/
def Override.function : Function where
  module := f.module
  name := Text.normalized m.name
  parameters := m.ownParameters f defaults
  form := if m.isAsync then .coroutine else .plain
  body := .delegate (m.delegation f.owner)

end

private theorem declares_zip (f : Frame) : ∀ {written : List Source.Parameter} {defaults : List (Option Value)},
    defaults.length = written.length → List.Forall₂ (Declares f.owner) written
      ((written.zip defaults).map fun (p, default) => Engine.parameterOf f p default)
  | [], [], _ => .nil
  | _ :: _, _ :: _, same => .cons ⟨rfl, rfl⟩ (declares_zip f (Nat.succ.inj same))

section

variable {m : Override} {f : Frame} {defaults : List (Option Value)}

theorem ownParameters_declared (given : defaults.length = m.parameters.length + 1) :
    List.Forall₂ (Declares f.owner) (.mk "self" .positional none none :: m.parameters.map Parameter.tree)
      (m.ownParameters f defaults) :=
  declares_zip f (by simpa using given)

theorem ownParameters_names (given : defaults.length = m.parameters.length + 1) :
    (m.ownParameters f defaults).map (·.name) =
      parameterNames f.owner (.mk "self" .positional none none :: m.parameters.map Parameter.tree) := by
  have declared := ownParameters_declared (f := f) given
  rw [parameterNames, ← List.forall₂_eq_eq_eq, List.forall₂_map_left_iff, List.forall₂_map_right_iff]
  exact declared.flip.imp fun _ _ same => same.1

/-- Every parameter but the first is passed on. -/
theorem delegation_names (given : defaults.length = m.parameters.length + 1) :
    (m.delegation f.owner).forwards.map Forward.name = ((m.ownParameters f defaults).map (·.name)).drop 1 := by
  rw [ownParameters_names given, Override.delegation, parameterNames, List.map_cons, List.drop_one, List.tail_cons,
    List.map_map, List.map_map]
  refine List.map_congr_left fun p _ => ?_
  rw [Function.comp_apply, Function.comp_apply, Parameter.forward, Parameter.tree]
  cases p.kind <;> rfl

/-- The statement of an override makes its function. -/
theorem functionOfStatement_override {name : String} (inClass : InClass f name) (chosen : m.ChoosesNames)
    (given : defaults.length = m.parameters.length + 1) (distinct : Distinct (m.ownParameters f defaults)) :
    Engine.functionOfStatement f m.isAsync (Text.normalized m.name)
      (.mk "self" .positional none none :: m.parameters.map Parameter.tree) defaults m.body =
        Engine.newFunction (m.function f defaults) := by
  obtain ⟨definer, isDefiner, path⟩ := inClass.definer
  have declared := ownParameters_declared (f := f) given
  rw [inClass.owner, ← path] at declared
  have body := body?_delegate chosen distinct declared
  have quiet := body_isGenerator (m := m) f.owner
  unfold Engine.functionOfStatement
  simp only [inClass.kind, isDefiner]
  rw [← Override.ownParameters, body]
  simp only [Engine.codeIn, quiet, Option.getD_some]
  cases isAsync : m.isAsync
  · rw [Override.function, isAsync, inClass.owner, ← path]
    rfl
  · rw [Override.function, isAsync, inClass.owner, ← path]
    rfl

end

end Wrapper

end EachSubject
