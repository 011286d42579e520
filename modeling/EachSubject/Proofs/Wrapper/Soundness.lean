import EachSubject.Proofs.Source.Displays
import EachSubject.Proofs.Wrapper.Function

/-!
# Wrapper modules make sense as a whole

A block that declares no names to belong to outer ones is orderly if its parameters have different names. So a wrapper
module keeps all rules: its types and defaults only read names, its functions have parameters with different names,
and only coroutines await.
-/

namespace EachSubject.Source

theorem bodyOutline_append (owner : String) : ∀ body more : List Stmt,
    bodyOutline owner (body ++ more) = bodyOutline owner body ++ bodyOutline owner more
  | [], _ => rfl
  | s :: body, more => by
    rw [List.cons_append, bodyOutline, bodyOutline, bodyOutline_append owner body more, List.append_assoc]

namespace Outline

/-! ## Blocks that keep to themselves -/

/-- No names are declared to belong to an outer block. -/
def IsUndeclaring (body : List Outline) : Prop := ∀ item ∈ ownAll body, item.declared = []

section

variable {body more : List Outline}

theorem IsUndeclaring.append (first : IsUndeclaring body) (further : IsUndeclaring more) :
    IsUndeclaring (body ++ more) := by
  rw [IsUndeclaring, ownAll_append]
  exact List.forall_mem_append.2 ⟨first, further⟩

theorem IsUndeclaring.cons {item : Outline} (first : IsUndeclaring [item]) (further : IsUndeclaring body) :
    IsUndeclaring (item :: body) := first.append further

theorem IsUndeclaring.of_quiet (quiet : ∀ item ∈ body, item.IsQuiet) : IsUndeclaring body := by
  induction body with
  | nil => exact fun _ among => absurd among List.not_mem_nil
  | cons item body ih =>
    obtain ⟨first, behind⟩ := List.forall_mem_cons.1 quiet
    refine List.forall_mem_append.2 ⟨?_, ih behind⟩
    cases first <;> simp [own, declared]

private theorem declaresFirst_of_undeclared : ∀ {items : List Outline} {seen : List String},
    (∀ item ∈ items, item.declared = []) → declaresFirst seen items = true
  | [], _, _ => rfl
  | item :: rest, seen, undeclared => by
    obtain ⟨first, behind⟩ := List.forall_mem_cons.1 undeclared
    rw [declaresFirst, first, declaresFirst_of_undeclared behind]
    rfl

private theorem annotatesOwn_of_undeclared : ∀ {items : List Outline},
    (∀ item ∈ items, item.declared = []) → annotatesOwn [] items = true
  | [], _ => rfl
  | item :: rest, undeclared => by
    obtain ⟨first, behind⟩ := List.forall_mem_cons.1 undeclared
    have further := annotatesOwn_of_undeclared behind
    by_cases isType : ∃ name, item = annotates name
    · obtain ⟨name, rfl⟩ := isType
      exact further
    · rw [annotatesOwn, first]
      · exact further
      · exact fun name same => isType ⟨name, same⟩

/-- A block that declares nothing takes no names from its module. -/
theorem IsUndeclaring.globalNames (undeclaring : IsUndeclaring body) : Outline.globalNames body = [] := by
  refine List.flatMap_eq_nil_iff.2 fun item among => ?_
  have nothing := undeclaring item among
  cases item <;> first | rfl | exact nothing

/-- A block that declares nothing is orderly if its parameters have different names. -/
theorem isOrderly_of_undeclaring {parameters : List String} (distinct : parameters.Pairwise (· ≠ ·))
    (undeclaring : IsUndeclaring body) : isOrderly parameters body = true := by
  rw [isOrderly, undeclaring.globalNames, declaresFirst_of_undeclared undeclaring,
    annotatesOwn_of_undeclared undeclaring, decide_eq_true distinct]
  rfl

theorem areSound_of_forall {p : Position} (each : ∀ item ∈ body, isSound p item = true) : areSound p body = true := by
  induction body with
  | nil => rfl
  | cons item body ih =>
    obtain ⟨first, behind⟩ := List.forall_mem_cons.1 each
    rw [areSound, first, ih behind]
    rfl

theorem isSound_hint (quiet : ∀ item ∈ body, item.IsQuiet) (p : Position) :
    isSound p (.block .hint [] body) = true := by
  rw [isSound, isOrderly_of_undeclaring .nil (.of_quiet quiet), areSound_quiet quiet]
  · rfl
  · rintro _ ⟨⟩
  · rintro _ ⟨⟩

end

end Outline

end EachSubject.Source

namespace EachSubject

open Source Source.Outline

namespace Wrapper

/-! ## Names and texts -/

/-- The name is in its normal form, and stands for itself in every class. -/
structure IsOpenName (name : String) : Prop where
  normal : Text.normalized name = name
  notPrivate : isPrivate name = false
  notConstant : name ≠ constantName

namespace IsOpenName

variable {name : String}

theorem inside (isOpen : IsOpenName name) (owner : String) : nameInside owner name = name :=
  if_neg (by rw [isOpen.notPrivate]; exact Bool.false_ne_true)

theorem binding (isOpen : IsOpenName name) (owner : String) : bindingOf owner (Text.normalized name) = .binds name := by
  rw [isOpen.normal, bindingOf, if_neg isOpen.notConstant, isOpen.inside owner]

end IsOpenName

/-- The text only reads names, if it is an expression. -/
def IsQuietText (text : String) : Prop := ∀ e, expressionOf text = some e → e.IsSettled

theorem IsQuietText.settled {text : String} (isQuiet : IsQuietText text) :
    ((expressionOf text).getD (.literal .none)).IsSettled := by
  cases isExpression : expressionOf text with
  | none => exact .literal .none
  | some e => exact isQuiet e isExpression

/-- The names of an override are open and differ from each other, and its types and defaults only read names. -/
structure Override.KeepsRules (m : Override) : Prop where
  name : IsOpenName m.name
  item : IsOpenName m.itemLocal
  subject : IsOpenName m.subjectLocal
  parameters : ∀ p ∈ m.parameters, IsOpenName p.name
  different : ("self" :: m.parameters.map (·.name)).Nodup
  target : IsQuietText m.targetType
  returns : ∀ returns ∈ m.returns, IsQuietText returns
  hints : ∀ p ∈ m.parameters, ∀ e ∈ p.hint, e.IsSettled
  defaults : ∀ p ∈ m.parameters, ∀ e ∈ p.value, e.IsSettled

section

variable {m : Override} (rules : m.KeepsRules) (owner : String)

include rules

theorem Override.KeepsRules.names :
    parameterNames owner (.mk "self" .positional none none :: m.parameters.map Parameter.tree) =
      "self" :: m.parameters.map (·.name) := by
  rw [parameterNames, List.map_cons, List.map_map]
  refine congrArg₂ List.cons (nameInside_plain (c := 's') rfl (by decide)) (List.map_congr_left fun p among => ?_)
  have isOpen := rules.parameters p among
  rw [Function.comp_apply, Parameter.tree]
  exact (congrArg _ isOpen.normal).trans (isOpen.inside owner)

private theorem defaults_quiet : ∀ item ∈ defaultsOutline owner
    (.mk "self" .positional none none :: m.parameters.map Parameter.tree), item.IsQuiet := by
  have each := rules.defaults
  rw [defaultsOutline]
  generalize m.parameters = parameters at each
  induction parameters with
  | nil => exact fun _ among => absurd among List.not_mem_nil
  | cons p parameters ih =>
    obtain ⟨first, behind⟩ := List.forall_mem_cons.1 each
    have further := ih behind
    rw [optionalOutline, List.nil_append] at further ⊢
    rw [List.map_cons, Parameter.tree, defaultsOutline]
    refine List.forall_mem_append.2 ⟨?_, further⟩
    cases isDefault : p.value with
    | none => exact fun _ among => absurd among List.not_mem_nil
    | some e => exact (first e isDefault).quiet owner

private theorem hints_quiet : ∀ item ∈ itemsOutline owner
    ((Source.Parameter.mk "self" .positional none none :: m.parameters.map Parameter.tree).filterMap (·.hint)),
    item.IsQuiet := by
  refine Expr.IsSettled.items_quiet (fun e among => ?_) owner
  obtain ⟨written, inside, isHint⟩ := List.mem_filterMap.1 among
  rcases List.mem_cons.1 inside with rfl | inside
  · cases isHint
  · obtain ⟨p, isParameter, rfl⟩ := List.mem_map.1 inside
    exact rules.hints p isParameter e isHint

omit rules in
private theorem keywords_sublist {parameters : List Parameter} (normal : ∀ p ∈ parameters, Text.normalized p.name = p.name) :
    (keywordNames (parameters.map Parameter.passed)).Sublist (parameters.map (·.name)) := by
  induction parameters with
  | nil => exact .slnil
  | cons p parameters ih =>
    obtain ⟨first, behind⟩ := List.forall_mem_cons.1 normal
    have further := ih behind
    rw [keywordNames] at further ⊢
    rw [List.map_cons, List.map_cons, Parameter.passed, first]
    cases p.kind
    case keywordOnly => exact further.cons_cons _
    all_goals exact further.cons _

/-- The parameters are passed on by names. -/
private theorem passed_quiet : ∀ item ∈ argumentsOutline owner (m.parameters.map Parameter.passed), item.IsQuiet := by
  have isOpen := rules.parameters
  generalize m.parameters = parameters at isOpen
  induction parameters with
  | nil => exact fun _ among => absurd among List.not_mem_nil
  | cons p parameters ih =>
    obtain ⟨first, behind⟩ := List.forall_mem_cons.1 isOpen
    have further := ih behind
    rw [List.map_cons, Parameter.passed, first.normal]
    have reads : ∀ item ∈ (Expr.name p.name).outline owner, item.IsQuiet := (Expr.IsSettled.name p.name).quiet owner
    cases p.kind <;> simp only [argumentsOutline]
    case keywordOnly =>
      rw [needs, if_pos (by simpa using first.notConstant)]
      exact List.forall_mem_append.2 ⟨reads, further⟩
    all_goals exact List.forall_mem_append.2 ⟨reads, further⟩

/-- The method of the subject is called with each keyword once. -/
private theorem call_areSound (p : Position) : areSound p (m.callTree.outline owner) = true := by
  have different := (List.nodup_cons.1 rules.different).2
  have words : (keywordNames (m.parameters.map Parameter.passed)).Pairwise (· ≠ ·) :=
    different.sublist (keywords_sublist fun p among => (rules.parameters p among).normal)
  rw [Override.callTree, Expr.outline]
  simp [areSound, isSound, Expr.outline, areSound_quiet (passed_quiet rules owner), words]

private theorem itemTree_outline : m.itemTree.outline owner = [.annotates m.itemLocal, .binds m.itemLocal,
    .block .hint [] (((expressionOf m.targetType).getD (.literal .none)).outline owner)] := by
  rw [Override.itemTree, Stmt.outline, rules.item.binding, rules.item.normal, rules.item.inside]
  rfl

private theorem subjectTree_outline : m.subjectTree.outline owner = [.annotates m.subjectLocal, .binds m.subjectLocal,
    .block .hint [] [.reads (nameInside owner (Text.normalized m.subjectType))], .keywords [],
    .reads (nameInside owner "self"), .reads (nameInside owner "self"), .reads m.itemLocal] := by
  rw [Override.subjectTree, Stmt.outline, rules.subject.binding, rules.subject.normal, rules.subject.inside, rules.item.normal]
  simp only [optionalOutline, Expr.outline, argumentsOutline, keywordNames, rules.item.inside]
  rfl

private theorem loopTree_outline : m.loopTree.outline owner = [.binds m.itemLocal, .reads (nameInside owner "self"),
    .loop (m.subjectTree.outline owner ++ (m.callTree.outline owner ++ if m.isAsync then [.awaits] else []))] := by
  rw [Override.loopTree, Stmt.outline, Expr.targetOutline, rules.item.binding]
  cases m.isAsync <;> simp [bodyOutline, Stmt.outline, Expr.outline, Expr.isStarred, needs]

/-- The body of an override makes sense inside of its function. -/
private theorem body_areSound {p : Position} (inside : p.kind? = some (.function m.isAsync)) :
    areSound p (bodyOutline owner m.body) = true := by
  have call := fun p => call_areSound rules owner p
  have target : ∀ p, isSound p _ = true := isSound_hint (rules.target.settled.quiet owner)
  have subjectType : ∀ p, isSound p (.block .hint [] [.reads (nameInside owner (Text.normalized m.subjectType))]) = true :=
    isSound_hint (by simpa using IsQuiet.reads _)
  have awaits : areSound { p with inLoop := true } (if m.isAsync then [.awaits] else []) = true := by
    cases isAsync : m.isAsync with
    | false => rfl
    | true =>
      rw [isAsync] at inside
      rw [if_pos rfl, areSound, isSound, Position.canAwait]
      rw [show Position.kind? { p with inLoop := true } = p.kind? from rfl, inside]
      rfl
  have subject : ∀ p, areSound p (m.subjectTree.outline owner) = true := by
    intro p
    rw [subjectTree_outline rules]
    simp only [areSound, subjectType]
    simp [isSound]
  rw [Override.body, bodyOutline, bodyOutline, bodyOutline, itemTree_outline rules, loopTree_outline rules]
  simp only [areSound_append, areSound, target]
  simp [isSound, areSound_append, subject, call, awaits]

private theorem body_isUndeclaring : IsUndeclaring (bodyOutline owner m.body) := by
  have call : IsUndeclaring (m.callTree.outline owner ++ if m.isAsync then [.awaits] else []) := by
    refine .append ?_ ?_
    · rw [Override.callTree, Expr.outline]
      refine .append (by simp [IsUndeclaring, Expr.outline, ownAll, own, declared]) (.of_quiet (passed_quiet rules owner))
    · cases m.isAsync <;> simp [IsUndeclaring, ownAll, own, declared]
  have subject : IsUndeclaring (m.subjectTree.outline owner) := by
    rw [subjectTree_outline rules]
    simp [IsUndeclaring, ownAll, own, declared]
  have loop : IsUndeclaring (m.loopTree.outline owner) := by
    rw [loopTree_outline rules]
    have inside := subject.append call
    simpa [IsUndeclaring, ownAll, own, declared] using inside
  rw [Override.body, bodyOutline, bodyOutline, bodyOutline, List.append_nil]
  refine .append ?_ loop
  rw [itemTree_outline rules]
  simp [IsUndeclaring, ownAll, own, declared]

private theorem returns_quiet : ∀ item ∈ optionalOutline owner (m.returns.bind expressionOf), item.IsQuiet := by
  cases returns : m.returns with
  | none => exact fun _ among => absurd among List.not_mem_nil
  | some text =>
    rw [Option.bind_some]
    cases isExpression : expressionOf text with
    | none => exact fun _ among => absurd among List.not_mem_nil
    | some e => exact (rules.returns text returns e isExpression).quiet owner

private theorem tree_outline : m.tree.outline owner = .binds m.name :: (defaultsOutline owner
    (.mk "self" .positional none none :: m.parameters.map Parameter.tree) ++
    [.block .hint [] (itemsOutline owner
      ((Source.Parameter.mk "self" .positional none none :: m.parameters.map Parameter.tree).filterMap (·.hint))),
     .block .hint [] (optionalOutline owner (m.returns.bind expressionOf)), .reads (nameInside owner "override"),
     .block (.function m.isAsync) ("self" :: m.parameters.map (·.name)) (bodyOutline owner m.body)]) := by
  have noConstant : constantName ∉ "self" :: m.parameters.map (·.name) := by
    intro among
    rcases List.mem_cons.1 among with impossible | among
    · exact absurd impossible (by decide)
    · obtain ⟨p, isParameter, same⟩ := List.mem_map.1 among
      exact (rules.parameters p isParameter).notConstant same
  rw [Override.tree, Stmt.outline, rules.names, rules.name.binding, needs, if_pos (by simpa using noConstant)]
  simp [hintsOutline, allOutline, Expr.outline]

/-- An override makes sense inside of a class. -/
theorem Override.KeepsRules.areSound (p : Position) : Outline.areSound p (m.tree.outline owner) = true := by
  have function : isSound p (.block (.function m.isAsync) ("self" :: m.parameters.map (·.name))
      (bodyOutline owner m.body)) = true := by
    rw [isSound, isOrderly_of_undeclaring rules.different (body_isUndeclaring rules owner),
      body_areSound rules owner rfl, body_isGenerator]
    simp
  rw [tree_outline rules]
  simp only [Outline.areSound, areSound_append, areSound_quiet (defaults_quiet rules owner),
    isSound_hint (hints_quiet rules owner), isSound_hint (returns_quiet rules owner), function]
  rfl

theorem Override.KeepsRules.isUndeclaring : IsUndeclaring (m.tree.outline owner) := by
  rw [tree_outline rules]
  refine .cons (by simp [IsUndeclaring, ownAll, own, declared]) ?_
  refine .append (.of_quiet (defaults_quiet rules owner)) ?_
  simp [IsUndeclaring, ownAll, own, declared]

end

/-! ## The class -/

/-- The names of a class are open, its types and defaults only read names, and its subject is not imported from the
    future of the language. -/
structure Class.KeepsRules (c : Class) : Prop where
  name : IsOpenName c.name
  subjectName : IsOpenName c.subjectName
  package : (Text.pathPieces c.package).map Text.normalized ≠ ["__future__"]
  target : IsQuietText c.targetType
  overrides : ∀ m ∈ c.overrides, m.KeepsRules

/-- The statements of the class. -/
def Class.body (c : Class) : List Stmt := c.constructorTree :: c.overrides.map Override.tree

/-- The parameters of a constructor are the same in every class. -/
theorem constructor_names (c : Class) (owner : String) :
    parameterNames owner c.constructorParameters = ["self", "failure_strategy", "subject_factory", "data"] := by
  have same : ∀ name ∈ ["self", "failure_strategy", "subject_factory", "data"], nameInside owner name = name := by
    intro name among
    exact if_neg ((by decide : ∀ name ∈ ["self", "failure_strategy", "subject_factory", "data"],
      ¬isPrivate name = true) name among)
  simp only [List.forall_mem_cons] at same
  obtain ⟨self, reporter, factory, data, _⟩ := same
  rw [parameterNames, Class.constructorParameters]
  simp only [List.map_cons, List.map_nil, Source.Parameter.name, self, reporter, factory, data]

section

variable {c : Class} (rules : c.KeepsRules) (owner : String)

include rules

omit rules in
private theorem constructorBody_outline : ∃ quiet, (∀ item ∈ quiet, item.IsQuiet) ∧
    c.constructorTree.outline owner = .binds "__init__" :: (hintsOutline owner c.constructorParameters ++
      [.block .hint [] [], .block (.function false) ["self", "failure_strategy", "subject_factory", "data"] quiet]) := by
  let reads (name : String) : Outline := .reads (nameInside owner name)
  refine ⟨[.keywords [], .keywords [], reads "super", reads "failure_strategy", reads "subject_factory", reads "self",
    reads "data", reads "self"], ?_, ?_⟩
  · intro item among
    simp only [List.mem_cons, List.not_mem_nil, or_false, reads] at among
    rcases among with rfl | rfl | rfl | rfl | rfl | rfl | rfl | rfl <;> constructor
  · rw [Class.constructorTree, Stmt.outline, constructor_names, needs, if_pos (by decide)]
    rfl

/-- The constructor makes sense inside of a class. -/
private theorem constructor_sound : IsUndeclaring (c.constructorTree.outline owner) ∧
    ∀ p, areSound p (c.constructorTree.outline owner) = true := by
  have target := rules.target.settled
  have index : Grammar.indexOf ((expressionOf c.targetType).getD (.literal .none)) =
      (expressionOf c.targetType).getD (.literal .none) := by
    rw [Grammar.indexOf]
    exact target.single
  have hints : ∀ item ∈ itemsOutline owner (c.constructorParameters.filterMap (·.hint)), item.IsQuiet := by
    have written : c.constructorParameters.filterMap (·.hint) = [.name "FailureStrategy", .name "SubjectFactory",
        .subscript (.name "Iterable") ((expressionOf c.targetType).getD (.literal .none))] := by
      rw [Class.constructorParameters, index]
      rfl
    refine Expr.IsSettled.items_quiet (fun e among => ?_) owner
    simp only [written, List.mem_cons, List.not_mem_nil, or_false] at among
    rcases among with rfl | rfl | rfl
    · exact .name _
    · exact .name _
    · exact .subscript (.name _) target
  obtain ⟨quiet, isQuiet, same⟩ := constructorBody_outline (c := c) owner
  rw [same, hintsOutline]
  constructor
  · simp [IsUndeclaring, ownAll, own, declared]
  · intro p
    have function : isSound p (.block (.function false) ["self", "failure_strategy", "subject_factory", "data"] quiet) =
        true := by
      rw [isSound, isOrderly_of_undeclaring (by decide) (.of_quiet isQuiet), areSound_quiet isQuiet]
      rfl
    have none : isSound p (.block .hint [] []) = true :=
      isSound_hint (fun _ among => absurd among List.not_mem_nil) p
    simp only [List.cons_append, List.nil_append, Outline.areSound, isSound_hint hints, function, none]
    rfl

private theorem overrides_sound : IsUndeclaring (bodyOutline owner (c.overrides.map Override.tree)) ∧
    ∀ p, areSound p (bodyOutline owner (c.overrides.map Override.tree)) = true := by
  have each := rules.overrides
  generalize c.overrides = overrides at each
  induction overrides with
  | nil => exact ⟨fun _ among => absurd among List.not_mem_nil, fun _ => rfl⟩
  | cons m overrides ih =>
    obtain ⟨first, behind⟩ := List.forall_mem_cons.1 each
    obtain ⟨undeclaring, sound⟩ := ih behind
    rw [List.map_cons, bodyOutline]
    refine ⟨(first.isUndeclaring owner).append undeclaring, fun p => ?_⟩
    rw [areSound_append, first.areSound owner p, sound p]
    rfl

/-- The class declares no names to belong to its module. -/
theorem Class.KeepsRules.body_isUndeclaring : IsUndeclaring (bodyOutline owner c.body) :=
  (constructor_sound rules owner).1.append (overrides_sound rules owner).1

/-- The class makes sense at the top of a module. -/
private theorem class_sound : IsUndeclaring (c.tree.outline "") ∧ areSound {} (c.tree.outline "") = true := by
  obtain ⟨_, constructorSound⟩ := constructor_sound rules (Text.normalized c.name)
  obtain ⟨_, overridesSound⟩ := overrides_sound rules (Text.normalized c.name)
  have body : ∀ p, isSound p (.block .classBody [] (bodyOutline (Text.normalized c.name) c.body)) = true := by
    intro p
    rw [isSound, isOrderly_of_undeclaring .nil (rules.body_isUndeclaring _), Class.body, bodyOutline,
      areSound_append, constructorSound, overridesSound]
    · rfl
    · rintro _ ⟨⟩
    · rintro _ ⟨⟩
  have whole : c.tree.outline "" = [.binds c.name, .keywords [], .reads (nameInside "" (Text.normalized c.subjectName)),
      .block .classBody [] (bodyOutline (Text.normalized c.name) c.body)] := by
    rw [Class.tree, Stmt.outline, rules.name.binding]
    rfl
  rw [whole]
  constructor
  · simp [IsUndeclaring, ownAll, own, declared]
  · rw [Outline.areSound, Outline.areSound, Outline.areSound, Outline.areSound, body]
    rfl

/-- The future of the language is imported at the top of the module only. -/
private theorem module_future : anyHoldsFuture (c.module.dropWhile Stmt.importsFuture) = false := by
  have overrides : ∀ overrides : List Override, anyHoldsFuture (overrides.map Override.tree) = false := by
    intro overrides
    induction overrides with
    | nil => rfl
    | cons m overrides ih =>
      rw [List.map_cons, anyHoldsFuture, ih]
      rfl
  have package : c.packageTree.holdsFuture = false := by
    rw [Class.packageTree, Stmt.holdsFuture]
    all_goals simp [rules.package]
  have tree : c.tree.holdsFuture = false := by
    rw [Class.tree, Stmt.holdsFuture, anyHoldsFuture, overrides]
    rfl
  have behind : c.module.dropWhile Stmt.importsFuture = Class.importTrees.drop 1 ++ [c.packageTree, c.tree] := rfl
  have imports : ∀ rest, anyHoldsFuture (Class.importTrees.drop 1 ++ rest) = anyHoldsFuture rest := fun _ => rfl
  rw [behind, imports, anyHoldsFuture, anyHoldsFuture, package, tree]
  rfl

/-- A wrapper module makes sense as a whole. -/
theorem Class.KeepsRules.isSound : c.module.isSound = true := by
  obtain ⟨declares, sound⟩ := class_sound rules
  have package : c.packageTree.outline "" = [.binds c.subjectName] := by
    rw [Class.packageTree, Stmt.outline, needs, if_pos (by simp [rules.package]), List.map_singleton]
    exact congrArg (fun item => [item]) (rules.subjectName.binding "")
  have imports : ∃ names : List String, bodyOutline "" (Class.importTrees ++ [c.packageTree]) = names.map .binds := by
    refine ⟨["annotations", "Iterable", "Annotated", "override", "FailureStrategy", "SubjectFactory", c.subjectName], ?_⟩
    rw [Class.importTrees]
    simp only [List.cons_append, List.nil_append, bodyOutline, package]
    rfl
  obtain ⟨names, imports⟩ := imports
  have whole : c.module.outline = names.map .binds ++ c.tree.outline "" := by
    rw [← imports, Module.outline, Class.module, List.append_cons, bodyOutline_append, bodyOutline, bodyOutline,
      List.append_nil]
  have binds : ∀ item ∈ names.map Outline.binds, ∃ name, item = .binds name := by
    intro item among
    obtain ⟨name, _, rfl⟩ := List.mem_map.1 among
    exact ⟨name, rfl⟩
  have undeclaring : IsUndeclaring (names.map .binds) := by
    clear imports whole binds
    induction names with
    | nil => exact fun _ among => absurd among List.not_mem_nil
    | cons name names ih => exact .cons (by simp [IsUndeclaring, ownAll, own, declared]) ih
  rw [Module.isSound, whole, module_future rules, declaresFirst_of_undeclared (undeclaring.append declares),
    areSound_append, sound, areSound_of_forall fun item among => ?_]
  · rfl
  · obtain ⟨name, rfl⟩ := binds item among
    rfl

end

end Wrapper

end EachSubject
