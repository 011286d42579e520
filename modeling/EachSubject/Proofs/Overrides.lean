import EachSubject.Proofs.Delegation
import EachSubject.Proofs.Wrapper.Emission
import EachSubject.Proofs.Wrapper.Function

/-!
# What the overrides of a wrapper do

Every override that is emitted for a method delegates: a call that binds visits the elements of the wrapper's
data one by one, at once, or when it is awaited if the method is a coroutine.

An emitted module holds the imports that all wrappers share, that of the subject class, and the wrapper class. Behind
its constructor the class has one function for each eligible method, with one parameter for each of the method's. No
complete expression that is copied into the module changes what is declared around it.
-/

namespace EachSubject

open Source Wrapper

/-! ## The emitted overrides -/

/-- The names that a function stores for its keyword-only parameters are in their normal form. -/
def MethodShape.StoresNames (m : MethodShape) : Prop :=
  ∀ keyword ∈ m.keywords, Text.normalized keyword = keyword

theorem MethodShape.override_chooses {m : MethodShape} {s : SubjectShape} {o : Override}
    (stored : m.StoresNames) (made : m.override s = .ok o) : o.ChoosesNames := by
  obtain ⟨_, parameters, named, _, rfl⟩ := override_ok made
  refine ⟨rfl, rfl, fun q among => ?_⟩
  obtain ⟨p, inside, names⟩ := mem_right_of_forall₂ named among
  have given := names.name
  split at given
  · rename_i keywordOnly
    refine stored q.name (List.mem_filterMap.2 ⟨p, inside, ?_⟩)
    rw [if_pos (names.kind ▸ keywordOnly), given]
  · obtain ⟨index, same⟩ := given
    obtain ⟨underscores, same'⟩ := firstFree_mem (argumentName index) m.keywords
    rw [same, same']
    exact (argumentName_plain index underscores).normalized

/-- What the statements of a module are that makes sense. -/
theorem WrapperSource.statements_ok {source : WrapperSource} {module : Module}
    (loaded : source.statements = .ok module) : parse? source.code = some module ∧ module.isSound = true := by
  rw [statements] at loaded
  split at loaded
  · cases loaded
  · obtain ⟨found, read, loaded⟩ := bind_eq_ok_iff.1 loaded
    cases parsed : parse? source.code with
    | none =>
      rw [parsed] at read
      cases read
    | some read' =>
      rw [parsed] at read
      cases read
      split at loaded
      · rename_i sound
        cases loaded
        exact ⟨rfl, sound⟩
      · cases loaded

namespace Engine

variable {e : Engine}

/-- A parameter gets a value for its default if it has one. -/
theorem evaluateDefaults_isSome {f : Frame} : ∀ {parameters : List Source.Parameter}
    {defaults : List (Option Value)} {store store' : Store},
      (e.evaluateDefaults f parameters).start store = (.ok defaults, store') →
        List.Forall₂ (fun p default => default.isSome = p.default.isSome) parameters defaults
  | [], _, _, _, evaluated => by
    cases evaluated
    exact .nil
  | .mk _ _ _ (some default) :: rest, _, _, _, evaluated => by
    rw [evaluateDefaults] at evaluated
    obtain ⟨_, _, _, evaluated⟩ := Run.bind_inv evaluated
    obtain ⟨others, _, behind, evaluated⟩ := Run.bind_inv evaluated
    cases evaluated
    exact .cons rfl (evaluateDefaults_isSome behind)
  | .mk _ _ _ none :: rest, _, _, _, evaluated => by
    rw [evaluateDefaults] at evaluated
    obtain ⟨others, _, behind, evaluated⟩ := Run.bind_inv evaluated
    cases evaluated
    exact .cons rfl (evaluateDefaults_isSome behind)

end Engine

/-- The class of an emitted module has the override of every eligible method among its members. The
    parameters of that have different names inside of the class. -/
theorem override_emitted {s : SubjectShape} (complete : s.IsComplete) {source : WrapperSource}
    (emitted : s.emit = .ok source) {module : Module} (loaded : source.statements = .ok module)
    {m : MethodShape} (eligible : m ∈ s.eligibleMethods) (stored : m.StoresNames) :
    ∃ o, m.override s = .ok o ∧ o.ChoosesNames ∧
      (∃ bases members, Stmt.class [] (Text.normalized source.className) bases members ∈ module ∧
        o.tree ∈ members) ∧
      ∀ (frame : Frame) (defaults : List (Option Value)), InClass frame (Text.normalized source.className) →
        defaults.length = o.parameters.length + 1 → Distinct (o.ownParameters frame defaults) := by
  obtain ⟨c, made, rfl, _⟩ := SubjectShape.emit_ok emitted
  obtain ⟨read, sound⟩ := WrapperSource.statements_ok loaded
  obtain rfl := SubjectShape.wrapper_read complete made read
  obtain ⟨_, _, _, _, _, overrides⟩ := SubjectShape.wrapper_ok made
  obtain ⟨o, among, overridden⟩ := mem_left_of_forall₂ overrides eligible
  have declares : c.tree ∈ c.module := by simp [Class.module]
  have holds : o.tree ∈ c.constructorTree :: c.overrides.map Override.tree :=
    List.mem_cons_of_mem _ (List.mem_map_of_mem among)
  have different := Module.isSound_distinct sound declares holds
  refine ⟨o, overridden, MethodShape.override_chooses stored overridden, ⟨_, _, declares, holds⟩, ?_⟩
  intro frame defaults inClass given
  rw [Distinct, ownParameters_names given, inClass.owner]
  exact different

/-- The class has a function of the method's name that delegates to it, and that has the property together with
    what it passes on. -/
def Overridden (className : String) (m : MethodShape) (module : Module)
    (property : Function → List Forward → Prop) : Prop :=
  ∃ bases members marks parameters returns body,
    Stmt.class [] className bases members ∈ module ∧
    Stmt.function marks m.isAsync (Text.normalized m.name) parameters returns body ∈ members ∧
    ∀ (e : Engine) (frame : Frame) (defaults : List (Option Value)) (store store' : Store),
      InClass frame className → (e.evaluateDefaults frame parameters).start store = (.ok defaults, store') →
      ∃ (f : Function) (forwards : List Forward),
        Engine.functionOfStatement frame m.isAsync (Text.normalized m.name) parameters defaults body =
          Engine.newFunction f ∧
        f.body = .delegate ⟨frame.inside (Text.normalized m.name), forwards, m.isAsync⟩ ∧ property f forwards

theorem Overridden.imp {className : String} {m : MethodShape} {module : Module}
    {property other : Function → List Forward → Prop} (overridden : Overridden className m module property)
    (implies : ∀ f forwards, property f forwards → other f forwards) : Overridden className m module other := by
  obtain ⟨bases, members, marks, parameters, returns, body, declares, holds, makes⟩ := overridden
  refine ⟨bases, members, marks, parameters, returns, body, declares, holds, ?_⟩
  intro e frame defaults store store' inClass evaluated
  obtain ⟨f, forwards, made, delegates, has⟩ := makes e frame defaults store store' inClass evaluated
  exact ⟨f, forwards, made, delegates, implies f forwards has⟩

/-- The class of an emitted module overrides every eligible method. What the function of the override receives
    can be passed on, and it comes with the wrapper that the override is called on. -/
theorem override_function {s : SubjectShape} (complete : s.IsComplete) {source : WrapperSource}
    (emitted : s.emit = .ok source) {module : Module} (loaded : source.statements = .ok module)
    {m : MethodShape} (eligible : m ∈ s.eligibleMethods) (stored : m.StoresNames) :
    Overridden (Text.normalized source.className) m module fun f forwards =>
      f.form = (if m.isAsync then .coroutine else .plain) ∧
      forwards.map Forward.name = (f.parameters.map (·.name)).drop 1 ∧
      ∀ (call : Call) (arguments : Arguments), call.bind? f.parameters = some arguments →
        ∃ self passed, arguments.lookup "self" = some (.one self) ∧
          Forward.call? arguments forwards = some passed := by
  obtain ⟨o, overridden, chosen, ⟨bases, members, declares, holds⟩, distinct⟩ :=
    override_emitted complete emitted loaded eligible stored
  obtain ⟨_, named, _, _, same⟩ := MethodShape.override_ok overridden
  have name : o.name = m.name := by rw [same]
  have isAsync : o.isAsync = m.isAsync := by rw [same]
  rw [Override.tree, isAsync, name] at holds
  refine ⟨_, _, _, _, _, _, declares, holds, fun e frame defaults store store' inClass evaluated => ?_⟩
  have given : defaults.length = o.parameters.length + 1 := by
    simpa using (Engine.evaluateDefaults_isSome evaluated).length_eq.symm
  have declared := ownParameters_declared (f := frame) given
  have distinct := distinct frame defaults inClass given
  have makes := functionOfStatement_override inClass chosen given distinct
  rw [isAsync, name] at makes
  refine ⟨o.function frame defaults, (o.delegation frame.owner).forwards, makes, ?_, ?_, delegation_names given,
    fun call arguments bound => ?_⟩
  · rw [Override.function, Override.delegation, name, isAsync]
    rfl
  · rw [← isAsync, Override.function]
  · have received := Call.receive_receives (Call.bind?_receive bound)
    obtain ⟨passed, forwarded⟩ := forwards_call distinct declared received
    obtain ⟨self, called⟩ := self_received declared received
    exact ⟨self, passed, called, forwarded⟩

/-! ## Their runs -/

open Engine in
/-- The class has a function of the method's name. A call of it that binds makes a subject for each element of
    the wrapper's data and calls that method of it, with the same arguments for each, and does nothing else;
    for a coroutine, as soon as it is awaited. -/
def Delegates (className : String) (m : MethodShape) (module : Module) : Prop :=
  ∃ bases members marks parameters returns body,
    Stmt.class [] className bases members ∈ module ∧
    Stmt.function marks m.isAsync (Text.normalized m.name) parameters returns body ∈ members ∧
    ∀ (e : Engine) (frame : Frame) (defaults : List (Option Value)) (store store' : Store),
      InClass frame className → (e.evaluateDefaults frame parameters).start store = (.ok defaults, store') →
      ∃ (f : Function) (forwards : List Forward),
        functionOfStatement frame m.isAsync (Text.normalized m.name) parameters defaults body = newFunction f ∧
        forwards.map Forward.name = (f.parameters.map (·.name)).drop 1 ∧
        ∀ (call : Call) (arguments : Arguments), call.bind? f.parameters = some arguments →
          ∃ self passed, arguments.lookup "self" = some (.one self) ∧
            Forward.call? arguments forwards = some passed ∧
            if m.isAsync then
              DelegatesWhenAwaited f (frame.inside (Text.normalized m.name)) call passed arguments self
            else DelegatesPlainly f (frame.inside (Text.normalized m.name)) call passed self

/-- A coroutine with a parameter of each kind that a name is chosen for. -/
def sampleMethod : MethodShape where
  name := "is_near"
  owner := "shop.PriceSubject"
  visibility := .everyone
  returns := some "None"
  parameters :=
    [{ typeText := some "int", annotations := [], kind := .positional, keyword := none, default := none },
     { typeText := none, annotations := [], kind := .keywordOnly, keyword := some "within", default := some "3" }]
  isFinal := false
  isPrivate := false
  isStatic := false
  isAsync := true
  isGenerator := false

/-- A subject with one method. -/
def sampleShape : SubjectShape where
  package := "shop"
  simpleName := "PriceSubject"
  target := "int"
  methods := [sampleMethod]

/-- The override of the method. -/
def sampleOverride : Override where
  name := "is_near"
  subjectType := "PriceSubject"
  targetType := "int"
  returns := some "None"
  parameters :=
    [{ name := "arg0", typeText := some "int" }, { name := "within", kind := .keywordOnly, default := some "3" }]
  isAsync := true

/-- The wrapper class of the subject. -/
def sampleClass : Wrapper.Class where
  package := "shop"
  subjectName := "PriceSubject"
  targetType := "int"
  overrides := [sampleOverride]

/-- The module of the wrapper class. -/
def sampleSource : WrapperSource where
  className := sampleClass.name
  package := "shop"
  code := sampleClass.text

private theorem readsAs_int : ReadsAs "int" (.name "int") :=
  ⟨[.word "int"], ⟨by decide, by decide, by decide, by decide⟩, rfl⟩

private theorem readsAs_none : ReadsAs "None" (.literal .none) :=
  ⟨[.word "None"], ⟨by decide, by decide, by decide, by decide⟩, rfl⟩

private theorem readsAs_three : ReadsAs "3" (.literal (.whole 3)) :=
  ⟨[.number (.whole 3)], ⟨by decide, by decide, by decide, by decide⟩, rfl⟩

theorem sampleMethod_eligible : sampleMethod ∈ sampleShape.eligibleMethods :=
  SubjectShape.mem_eligibleMethods.2 ⟨List.mem_singleton_self _, by decide⟩

theorem sampleShape_complete : sampleShape.IsComplete := by
  have only : ∀ m ∈ sampleShape.eligibleMethods, m = sampleMethod := fun m among =>
    List.mem_singleton.1 (SubjectShape.mem_eligibleMethods.1 among).1
  constructor
  case target => exact ⟨_, readsAs_int⟩
  case returns =>
    intro m among returns isReturned
    cases only m among
    cases isReturned
    exact ⟨_, readsAs_none⟩
  case typeText =>
    intro m among p inside typeText isType
    cases only m among
    simp only [sampleMethod, List.mem_cons, List.not_mem_nil, or_false] at inside
    rcases inside with rfl | rfl <;> cases isType
    exact ⟨_, readsAs_int⟩
  case default =>
    intro m among p inside default isDefault
    cases only m among
    simp only [sampleMethod, List.mem_cons, List.not_mem_nil, or_false] at inside
    rcases inside with rfl | rfl <;> cases isDefault
    exact ⟨_, readsAs_three⟩

theorem sampleMethod_stored : sampleMethod.StoresNames := by
  intro keyword among
  have given : sampleMethod.keywords = ["within"] := by decide
  rw [given, List.mem_singleton] at among
  rw [among]
  decide

/-- The override of the method, in any subject. -/
theorem sampleMethod_overrides (s : SubjectShape) : sampleMethod.override s =
    .ok { sampleOverride with subjectType := s.simpleName, targetType := s.target } := by
  have clear : (["arg0", "within"].filter fun n => 1 < ["arg0", "within"].count n || boundNames.contains n) = [] := by
    decide
  have apart : MethodShape.clashes ["arg0", "within"] = [] := by
    rw [MethodShape.clashes, clear]
    simp
  have parameters : MethodShape.parametersFrom sampleMethod.keywords 0 sampleMethod.parameters =
      .ok sampleOverride.parameters := by decide
  have ordered : MethodShape.checkOrder 0 none false sampleMethod.parameters = .ok () := rfl
  have isName : Text.isName sampleMethod.name = true := by decide
  have names : sampleOverride.parameters.map (·.name) = ["arg0", "within"] := rfl
  have item : freeLocal "item" ["arg0", "within"] = "item" := by decide
  have subject : freeLocal "subject" ["arg0", "within"] = "subject" := by decide
  rw [MethodShape.override, isName]
  refine bind_eq_ok_iff.2 ⟨_, parameters, bind_eq_ok_iff.2 ⟨_, ordered, ?_⟩⟩
  dsimp only
  rw [names, apart, if_neg (by decide), item, subject]
  rfl

theorem sampleMethod_override : sampleMethod.override sampleShape = .ok sampleOverride :=
  sampleMethod_overrides sampleShape

private theorem sampleShape_wrapper : sampleShape.wrapper = .ok sampleClass := by
  have eligible : sampleShape.eligibleMethods = [sampleMethod] := by decide
  have isPath : Text.isDottedPath sampleShape.package = true := by decide
  have simple : Text.isName sampleShape.simpleName = true := by decide
  rw [SubjectShape.wrapper, isPath, simple, eligible]
  refine bind_eq_ok_iff.2 ⟨sampleClass.overrides, ?_, rfl⟩
  rw [List.mapM_cons, mapError_eq_ok_iff.2 sampleMethod_override]
  rfl

/-- A text of one token that is no bracket nests nothing. -/
private theorem nests_single {text : String} (token : Token)
    (spells : Spells (text.toList.dropWhile isInlineSpace) [token]) (isNeutral : token.isNeutral = true) :
    Nests 0 (textTokens text) := by
  rw [spells.textTokens_eq]
  exact .neutral isNeutral .nil

/-- The text of the module can be cut into tokens, as none of its parts holds a bracket. -/
private theorem sampleClass_tokens : (tokens? sampleClass.text.toList).isSome = true := by
  have int : Nests 0 (textTokens "int") :=
    nests_single (.word "int") ⟨by decide, by decide, by decide, by decide⟩ rfl
  have nothing : Nests 0 (textTokens "None") :=
    nests_single (.word "None") ⟨by decide, by decide, by decide, by decide⟩ rfl
  have three : Nests 0 (textTokens "3") :=
    nests_single (.number (.whole 3)) ⟨by decide, by decide, by decide, by decide⟩ rfl
  have shallow : sampleOverride.IsShallow 0 := by
    constructor
    case targetType => exact int
    case returns =>
      intro returns isReturned
      cases isReturned
      exact nothing
    case parameters =>
      intro p among
      simp only [sampleOverride, List.mem_cons, List.not_mem_nil, or_false] at among
      rcases among with rfl | rfl
      · constructor
        · rintro typeText ⟨⟩
          exact int
        · rintro default ⟨⟩
      · constructor
        · rintro typeText ⟨⟩
        · rintro default ⟨⟩
          exact three
  have readable := SubjectShape.wrapper_readable sampleShape_complete sampleShape_wrapper
  exact Option.isSome_iff_exists.2 ⟨_, Class.tokens_of_shallow readable
    { targetType := int, overrides := fun o among => List.mem_singleton.1 among ▸ shallow } (by decide)⟩

theorem sampleShape_emit : sampleShape.emit = .ok sampleSource :=
  SubjectShape.emit_of_tokens sampleShape_complete sampleShape_wrapper sampleClass_tokens

theorem sampleSource_statements : sampleSource.statements = .ok sampleClass.module := by
  obtain ⟨all, cut⟩ := Option.isSome_iff_exists.1 sampleClass_tokens
  have parsed := SubjectShape.wrapper_parses sampleShape_complete sampleShape_wrapper cut
  have noNul : ¬sampleSource.code.contains nulCharacter = true := by
    obtain ⟨_, _, same, none⟩ := SubjectShape.emit_ok sampleShape_emit
    rw [same, none]
    decide
  have sound : sampleClass.module.isSound = true := by decide
  rw [WrapperSource.statements, if_neg noNul]
  refine bind_eq_ok_iff.2 ⟨sampleClass.module, ?_, if_pos sound⟩
  rw [show parse? sampleSource.code = some sampleClass.module from parsed]
  rfl

end EachSubject

namespace EachSubject

open Source Wrapper

/-- The parameter is declared under the name that is chosen for it at its index, and with its kind. It has a type and a
    default if the shape gives one, and then that which the text stands for. -/
structure ParameterShape.DeclaredBy (keywords : List String) (index : Nat) (p : ParameterShape)
    (declared : Source.Parameter) : Prop where
  name : ∃ name, MethodShape.parameterName keywords index p = .ok name ∧ declared.name = Text.normalized name
  mode : declared.mode = p.kind.mode
  hint : declared.hint = p.typeText.bind fun typeText => expressionOf (annotatedText typeText p.annotations)
  isTyped : declared.hint.isSome = p.typeText.isSome
  default : declared.default = p.default.bind expressionOf
  isDefaulted : declared.default.isSome = p.default.isSome

/-- The method is declared by a function of its name that takes the receiver, and behind it what the parameters of the
    method declare, in their order. -/
def MethodShape.DeclaredBy (m : MethodShape) (member : Stmt) : Prop :=
  ∃ parameters body,
    member = .function [.name "override"] m.isAsync (Text.normalized m.name)
      (.mk "self" .positional none none :: parameters) (m.returns.bind expressionOf) body ∧
    parameters.length = m.parameters.length ∧
    ∀ (index : Nat) (p : ParameterShape), m.parameters[index]? = some p →
      ∃ declared, parameters[index]? = some declared ∧ p.DeclaredBy m.keywords index declared

namespace MethodShape

/-- A parameter that was made is declared as its shape says, if its texts are complete. -/
private theorem parameter_declared {keywords : List String} {index : Nat} {p : ParameterShape}
    {q : Wrapper.Parameter} (made : parameter keywords index p = .ok q) (readable : q.IsReadable) :
    p.DeclaredBy keywords index q.tree := by
  obtain ⟨declarable, rfl⟩ := parameter_eq_ok_iff.1 made
  have isTyped : (p.typeText.bind fun typeText => expressionOf (annotatedText typeText p.annotations)).isSome =
      p.typeText.isSome := by
    cases isType : p.typeText with
    | none => rfl
    | some typeText =>
      obtain ⟨e, reads⟩ := readable.typeText typeText isType
      rw [Option.bind_some, reads.expressionOf_eq]
      rfl
  exact
    { name := ⟨_, parameterName_eq_ok_iff.2 ⟨declarable.keyword, rfl⟩, rfl⟩
      mode := rfl
      hint := rfl
      isTyped
      default := rfl
      isDefaulted := readable.value_isSome }

end MethodShape

/-- The override of a method of a complete shape declares it. -/
theorem override_declares {s : SubjectShape} (complete : s.IsComplete) (simple : Text.isName s.simpleName = true)
    {m : MethodShape} (eligible : m ∈ s.eligibleMethods) {o : Override} (made : m.override s = .ok o) :
    m.DeclaredBy o.tree := by
  have ⟨readable, _⟩ := SubjectShape.override_readable complete simple eligible made
  obtain ⟨_, chosen, named, _, _, rfl⟩ := MethodShape.override_eq_ok_iff.1 made
  refine ⟨chosen.map Parameter.tree, _, rfl, ?_, fun index p found => ?_⟩
  · rw [List.length_map]
    exact (MethodShape.parametersFrom_names named).length_eq.symm
  · obtain ⟨q, stands, made⟩ := MethodShape.parametersFrom_made named index p found
    rw [Nat.zero_add] at made
    refine ⟨q.tree, by rw [List.getElem?_map, stands]; rfl, MethodShape.parameter_declared made ?_⟩
    exact readable.parameters q (List.mem_of_getElem? stands)

private theorem emitted_parses {s : SubjectShape} {source : WrapperSource} (emitted : s.emit = .ok source) :
    (parse? source.code).isSome = true := by
  rw [SubjectShape.emit] at emitted
  obtain ⟨c, _, emitted⟩ := bind_eq_ok_iff.1 emitted
  split at emitted
  · cases emitted
  · split at emitted
    · rename_i parses
      cases emitted
      exact parses
    · cases emitted

/-- The module that is emitted for a complete shape reads as the imports and one class. Its members are the constructor
    and, in the order of the eligible methods, one function that declares each of them. -/
theorem emit_declares {s : SubjectShape} (complete : s.IsComplete) {source : WrapperSource}
    (emitted : s.emit = .ok source) : ∃ c members, s.wrapper = .ok c ∧
      parse? source.code = some (Class.importTrees ++ [c.packageTree,
        .class [] (Text.normalized source.className) [.positional (.name (Text.normalized s.simpleName))]
          (c.constructorTree :: members)]) ∧
      List.Forall₂ MethodShape.DeclaredBy s.eligibleMethods members := by
  obtain ⟨c, made, rfl, _⟩ := SubjectShape.emit_ok emitted
  obtain ⟨_, simple, _, subjectName, _, overrides⟩ := SubjectShape.wrapper_ok made
  refine ⟨c, c.overrides.map Override.tree, made, ?_, ?_⟩
  · obtain ⟨module, parsed⟩ := Option.isSome_iff_exists.1 (emitted_parses emitted)
    rw [← subjectName]
    exact parsed.trans (congrArg some (SubjectShape.wrapper_read complete made parsed))
  · rw [List.forall₂_map_right_iff]
    have eligible : ∀ m ∈ s.eligibleMethods, m ∈ s.eligibleMethods := fun _ among => among
    refine ((List.forall₂_and_left _ _).2 ⟨eligible, overrides⟩).imp fun m o both => ?_
    exact override_declares complete simple both.1 both.2

theorem sample_declares : sampleShape.IsComplete ∧ sampleShape.emit = .ok sampleSource ∧
    ∃ c members, sampleShape.wrapper = .ok c ∧
      parse? sampleSource.code = some (Class.importTrees ++ [c.packageTree,
        .class [] (Text.normalized sampleSource.className) [.positional (.name (Text.normalized "PriceSubject"))]
          (c.constructorTree :: members)]) ∧
      List.Forall₂ MethodShape.DeclaredBy [sampleMethod] members := by
  have eligible : sampleShape.eligibleMethods = [sampleMethod] := by decide
  have declares := emit_declares sampleShape_complete sampleShape_emit
  rw [eligible] at declares
  exact ⟨sampleShape_complete, sampleShape_emit, declares⟩

end EachSubject
