import EachSubject.Loading
import EachSubject.Proofs.Described
import EachSubject.Proofs.Evaluation.Scopes
import EachSubject.Proofs.Wrapper.Soundness

/-!
# Loading a wrapper

The module of a wrapper class runs statement by statement: its imports bind what they name, the body of its class makes
the constructor and then the overrides, and the class is made below the one that was imported. Each override reads its
mark, and what its defaults read, in a scope that the overrides before it have written to.
-/

namespace EachSubject

open Source Wrapper

/-! ## Functions of the class -/

/-- The body of the class runs in the frame, at the top of a module. -/
structure Frame.IsClassBody (f : Frame) (name : ClassName) : Prop extends f.IsOuter where
  isClass : f.kind = .classBody
  owner : f.owner = name.path
  module : f.module = name.module
  path : f.path = name.path
  definer : f.definer = some name
  apart : f.scope ≠ f.globals

theorem Frame.IsClassBody.inClass {f : Frame} {name : ClassName} (body : f.IsClassBody name) :
    InClass f name.path where
  kind := body.isClass
  owner := body.owner
  definer := ⟨name, body.definer, rfl⟩

/-- The store keeps the function as an object. -/
def Store.KeepsFunction (store : Store) (id : Nat) (f : Function) : Prop :=
  store.entities[id]? = some (.function { function := f })

namespace Engine

variable {e : Engine} {f : Frame} {store : Store} {own outer : List (String × Value)}

/-- The mark of an override leaves its function as it is. -/
private theorem call_override (unchanged : store.revised = []) (value : Value) :
    (e.call (.builtin "override") { positional := [value] }).start store = (.ok value, store) := by
  obtain ⟨world, entities, policy, failures, nextPlace, revised, constants, handled⟩ := store
  cases unchanged
  rfl

/-- From the store on, evaluating gives a value, and everything that is known stays known. -/
def Settles (e : Engine) (f : Frame) (store : Store) (expression : Expr) : Prop :=
  ∀ later, store.Grows [] later → (e.evaluate f expression).Ends later fun _ last => later.Grows [] last

/-- Defaults that have values are evaluated one after the other. -/
theorem evaluateDefaults_ends : ∀ {parameters : List Source.Parameter} {store : Store},
    (∀ p ∈ parameters, ∀ default ∈ p.default, Settles e f store default) →
      (e.evaluateDefaults f parameters).Ends store fun defaults last =>
        defaults.length = parameters.length ∧ store.Grows [] last
  | [], store, _ => .pure ⟨rfl, .refl _ store⟩
  | .mk name mode hint none :: rest, store, each => by
    rw [evaluateDefaults]
    obtain ⟨_, behind⟩ := List.forall_mem_cons.1 each
    refine .bind (evaluateDefaults_ends behind) ?_
    rintro _ _ ⟨same, grows⟩
    exact .pure ⟨congrArg _ same, grows⟩
  | .mk name mode hint (some default) :: rest, store, each => by
    rw [evaluateDefaults]
    obtain ⟨first, behind⟩ := List.forall_mem_cons.1 each
    refine .bind (first default rfl store (.refl _ store)) fun _ middle grows => ?_
    have settled : ∀ p ∈ rest, ∀ default ∈ p.default, Settles e f middle default :=
      fun p among default isDefault later further => behind p among default isDefault later (grows.trans further)
    refine .bind (evaluateDefaults_ends settled) ?_
    rintro _ _ ⟨same, further⟩
    exact .pure ⟨congrArg _ same, grows.trans further⟩

theorem newFunction_ends (function : Function) (store : Store) : (newFunction function).Ends store fun value last =>
    ∃ id, value = .reference id Value.functionClass ∧ store.entities[id]? = none ∧ last.KeepsFunction id function ∧
      store.Grows [] last := by
  rw [newFunction]
  refine .bind (Run.allocate_ends _ store) ?_
  rintro id _ ⟨fresh, kept, grows⟩
  exact .pure ⟨id, rfl, fresh, kept, grows⟩

end Engine

/-! ## Overrides -/

section

variable {e : Engine} {f : Frame} {name : ClassName} {o : Override} {store : Store} {own outer : List (String × Value)}

/-- The entry is the function of an override under its name. -/
def Wrapper.Override.MadeIn (o : Override) (f : Frame) (store : Store) (entry : String × Value) : Prop :=
  ∃ id defaults, entry = (o.name, .reference id Value.functionClass) ∧ defaults.length = o.parameters.length + 1 ∧
    store.KeepsFunction id (o.function f defaults)

theorem Wrapper.Override.MadeIn.grows {later : Store} {scope : Nat} {entry : String × Value}
    (made : o.MadeIn f store entry) (isScope : store.entities[scope]? = some (.scope own)) (grows : store.Grows [scope] later) :
    o.MadeIn f later entry := by
  obtain ⟨id, defaults, same, given, kept⟩ := made
  refine ⟨id, defaults, same, given, grows.kept id ?_ _ kept⟩
  rw [List.mem_singleton]
  rintro rfl
  cases isScope.symm.trans kept

/-- The override of a class whose names stand for themselves makes its function, and binds it. -/
theorem Engine.runStatement_override (body : f.IsClassBody name) (rules : o.KeepsRules) (chosen : o.ChoosesNames)
    (unchanged : store.revised = []) (sees : f.Sees store own outer) (noOwn : own.lookup "override" = none)
    (imported : outer.lookup "override" = some (.builtin "override"))
    (defaults : ∀ p ∈ o.parameters, ∀ default ∈ p.value, Settles e f store default) :
    (e.runStatement f o.tree).Ends store fun signal last => signal = .next ∧ store.Grows [f.scope] last ∧
      ∃ entry, o.MadeIn f last entry ∧
        last.entities[f.scope]? = some (.scope (Run.bindName own entry.1 entry.2)) := by
  have mark : (e.evaluate f (.name "override")).start store = (.ok (.builtin "override"), store) := by
    rw [evaluate]
    refine body.value_start sees ?_
    rw [Frame.inside_notPrivate (by decide), noOwn, imported]
    rfl
  have marks : ([Expr.name "override"].mapM (e.evaluate f)).start store = (.ok [.builtin "override"], store) := by
    rw [List.mapM_cons, Run.bind_ok mark]
    rfl
  have settled : ∀ p ∈ Source.Parameter.mk "self" .positional none none :: o.parameters.map Parameter.tree,
      ∀ default ∈ p.default, Settles e f store default := by
    rw [List.forall_mem_cons]
    refine ⟨by rintro _ ⟨⟩, fun written among => ?_⟩
    obtain ⟨p, inside, rfl⟩ := List.mem_map.1 among
    exact defaults p inside
  have same : f.inside (Text.normalized o.name) = o.name := by
    rw [rules.name.normal, Frame.inside]
    exact rules.name.inside _
  rw [Override.tree, runStatement]
  refine .step marks (.bind (evaluateDefaults_ends settled) ?_)
  rintro given middle ⟨count, grows⟩
  have count : given.length = o.parameters.length + 1 := by simpa using count
  have distinct : Distinct (o.ownParameters f given) := by
    rw [Distinct, ownParameters_names count, rules.names]
    exact rules.different
  rw [functionOfStatement_override body.inClass chosen count distinct]
  refine .bind (newFunction_ends _ middle) ?_
  rintro value made ⟨id, rfl, _, kept, further⟩
  have decorated : (e.decorate (.reference id Value.functionClass) [.builtin "override"]).start made =
      (.ok (.reference id Value.functionClass), made) := by
    have unchanged : made.revised = [] := by rw [further.revised, grows.revised, unchanged]
    rw [decorate, List.reverse_singleton, List.foldlM_cons, Run.bind_ok (call_override unchanged _)]
    rfl
  have isScope : made.entities[f.scope]? = some (.scope own) :=
    (grows.trans further).kept _ List.not_mem_nil _ sees.own
  refine .step decorated (.bind (body.bind_ends isScope _ _) ?_)
  rintro _ last ⟨binds, isBound⟩
  rw [same] at isBound
  refine .pure ⟨rfl, ((grows.trans further).mono (List.nil_subset _)).trans binds,
    (o.name, .reference id Value.functionClass), ?_, isBound⟩
  exact Wrapper.Override.MadeIn.grows ⟨id, given, rfl, count, kept⟩ isScope binds

/-- What the mark of an override reads, and its defaults if there are any: the class of its subject, and the class of
    sets. -/
def Wrapper.Override.reads (o : Override) (subject : String) : List String :=
  "override" :: if o.parameters.any (·.default.isSome) then [subject, "set"] else []

/-- Where the class binds none of the names that the override reads, its defaults have values. -/
def Wrapper.Override.Evaluates (o : Override) (e : Engine) (f : Frame) (w : World) (outer : List (String × Value))
    (subject : String) : Prop :=
  ∀ store own, store.world = w → store.revised = [] → f.Sees store own outer →
    (∀ name ∈ o.reads subject, own.lookup name = none) →
    ∀ p ∈ o.parameters, ∀ default ∈ p.value, Engine.Settles e f store default

private theorem bindName_fresh {name : String} (absent : own.lookup name = none) (value : Value) :
    Run.bindName own name value = own ++ [(name, value)] := by
  rw [Run.bindName, if_neg]
  rw [List.any_eq_true]
  rintro ⟨entry, among, same⟩
  have differs := List.lookup_eq_none_iff.1 absent entry among
  simp [LawfulBEq.eq_of_beq same] at differs

private theorem lookup_append_single {entry : String × Value} {name : String} (absent : own.lookup name = none)
    (differs : entry.1 ≠ name) : (own ++ [entry]).lookup name = none := by
  rw [List.lookup_append, absent, Option.none_or, List.lookup_cons, beq_false_of_ne differs.symm]
  rfl

/-- The overrides of a class make their functions one after the other, as long as none of them binds a name that a
    later one reads. -/
theorem Engine.runAll_overrides (body : f.IsClassBody name)
    (imported : outer.lookup "override" = some (.builtin "override")) {w : World} {subject : String} :
    ∀ {overrides : List Override} {store : Store} {own : List (String × Value)},
      store.world = w → store.revised = [] → f.Sees store own outer →
      (∀ o ∈ overrides, o.KeepsRules ∧ o.ChoosesNames ∧ o.Evaluates e f w outer subject) →
      (∀ o ∈ overrides, ∀ name ∈ o.name :: o.reads subject, own.lookup name = none) →
      overrides.Pairwise (fun o later => o.name ∉ later.name :: later.reads subject) →
      (e.runAll f (overrides.map Override.tree)).Ends store fun signal last => signal = .next ∧
        store.Grows [f.scope] last ∧ ∃ made, List.Forall₂ (fun o entry => o.MadeIn f last entry) overrides made ∧
          last.entities[f.scope]? = some (.scope (own ++ made))
  | [], store, own, _, _, sees, _, _, _ =>
    .pure ⟨rfl, .refl _ store, [], .nil, by rw [List.append_nil]; exact sees.own⟩
  | o :: overrides, store, own, isWorld, unchanged, sees, each, free, apart => by
    obtain ⟨⟨rules, chosen, evaluates⟩, eachBehind⟩ := List.forall_mem_cons.1 each
    obtain ⟨freeHere, freeBehind⟩ := List.forall_mem_cons.1 free
    obtain ⟨apartHere, apartBehind⟩ := List.pairwise_cons.1 apart
    obtain ⟨noName, noReads⟩ := List.forall_mem_cons.1 freeHere
    have defaults := evaluates store own isWorld unchanged sees noReads
    have ran := runStatement_override (e := e) body rules chosen unchanged sees (noReads _ List.mem_cons_self) imported
      defaults
    rw [List.map_cons, runAll]
    refine .bind ran ?_
    rintro signal middle ⟨rfl, grows, entry, made, isBound⟩
    have isName : entry.1 = o.name := by
      obtain ⟨_, _, rfl, _⟩ := made
      rfl
    rw [bindName_fresh (by rw [isName]; exact noName)] at isBound
    have outside : f.globals ∉ [f.scope] := by
      rw [List.mem_singleton]
      exact Ne.symm body.apart
    have freeBehind : ∀ later ∈ overrides, ∀ name ∈ later.name :: later.reads subject,
        (own ++ [entry]).lookup name = none := by
      intro later among other inside
      refine lookup_append_single (freeBehind later among other inside) ?_
      rw [isName]
      rintro rfl
      exact apartHere later among inside
    refine (runAll_overrides body imported (grows.world.trans isWorld) (grows.revised.trans unchanged)
      ⟨isBound, grows.kept _ outside _ sees.outer⟩ eachBehind freeBehind apartBehind).imp ?_
    rintro signal last ⟨isNext, further, others, areMade, areBound⟩
    refine ⟨isNext, grows.trans further, entry :: others, .cons (made.grows isBound further) areMade, ?_⟩
    rw [areBound, List.append_assoc]
    rfl

end

/-! ## The constructor -/

section

variable {e : Engine} {f : Frame} {name : ClassName} {c : Wrapper.Class} {store : Store} {own : List (String × Value)}

/-- The function of the constructor, as the body of the class makes it. -/
def Wrapper.Class.constructor (c : Wrapper.Class) (f : Frame) (name : ClassName) : Function where
  module := f.module
  name := "__init__"
  parameters := c.constructorParameters.map (Engine.parameterOf f · none)
  body := .constructWrapper name

/-- The function is plain, and takes what failures are reported to, what makes subjects, and the data. -/
structure Function.IsWrapperConstructor (f : Function) (owner : ClassName) : Prop where
  plain : f.form = .plain
  body : f.body = .constructWrapper owner
  parameters : f.parameters = ["self", "failure_strategy", "subject_factory", "data"].map fun name => { name }

theorem Wrapper.Class.constructor_isWrapperConstructor (c : Wrapper.Class) (f : Frame) (name : ClassName) :
    (c.constructor f name).IsWrapperConstructor name where
  plain := rfl
  body := rfl
  parameters := by
    have same : ∀ name ∈ ["self", "failure_strategy", "subject_factory", "data"], f.inside name = name := by
      intro name among
      have notPrivate : ∀ name ∈ ["self", "failure_strategy", "subject_factory", "data"], isPrivate name = false := by
        decide
      exact Frame.inside_notPrivate (notPrivate name among) f
    simp only [List.forall_mem_cons] at same
    obtain ⟨self, reporter, factory, data, _⟩ := same
    simp [constructor, constructorParameters, Engine.parameterOf, Source.Parameter.name, Source.Parameter.mode, self,
      reporter, factory, data]

private theorem functionOfStatement_constructor (body : f.IsClassBody name) (c : Wrapper.Class) (statements : List Stmt)
    (isConstructor : EachSubject.Override.isConstructor statements = true)
    (noText : ∀ shown rest, statements ≠ .expression (.literal (.text shown)) :: rest)
    (quiet : Outline.isGenerator (bodyOutline f.owner statements) = false) :
    Engine.functionOfStatement f false "__init__" c.constructorParameters [none, none, none, none] statements =
      Engine.newFunction (c.constructor f name) := by
  have zipped : c.constructorParameters.zip [none, none, none, none] =
      c.constructorParameters.map fun p => (p, (none : Option Value)) := rfl
  have names : (c.constructorParameters.map (Engine.parameterOf f · none)).map (·.name) =
      ["self", "failure_strategy", "subject_factory", "data"] := by
    have same := constructor_names c f.owner
    rw [parameterNames] at same
    rw [List.map_map]
    exact same
  have known : EachSubject.Override.body? name (c.constructorParameters.map (Engine.parameterOf f · none)) statements =
      some (.constructWrapper name) := by
    rw [EachSubject.Override.body?, names, isConstructor]
    rfl
  unfold Engine.functionOfStatement
  simp only [zipped, List.map_map, Function.comp_def, body.isClass, body.definer, known, Engine.codeIn, quiet,
    Option.getD_some]
  rfl

/-- The constructor of a class makes its function, and binds it. -/
theorem Engine.runStatement_constructor (body : f.IsClassBody name) (c : Wrapper.Class)
    (isScope : store.entities[f.scope]? = some (.scope own)) :
    (e.runStatement f c.constructorTree).Ends store fun signal last => signal = .next ∧ store.Grows [f.scope] last ∧
      ∃ id, last.KeepsFunction id (c.constructor f name) ∧ last.entities[f.scope]? =
        some (.scope (Run.bindName own "__init__" (.reference id Value.functionClass))) := by
  have marks : (([] : List Expr).mapM (e.evaluate f)).start store = (.ok [], store) := rfl
  have defaults : (e.evaluateDefaults f c.constructorParameters).start store = (.ok [none, none, none, none], store) :=
    rfl
  have same : f.inside "__init__" = "__init__" := Frame.inside_notPrivate (by decide) f
  rw [Class.constructorTree, runStatement]
  refine .step marks (.step defaults ?_)
  rw [functionOfStatement_constructor body c _ rfl (by rintro _ _ ⟨⟩) rfl]
  refine .bind (newFunction_ends _ store) ?_
  rintro value made ⟨id, rfl, _, kept, grows⟩
  have decorated : (e.decorate (.reference id Value.functionClass) []).start made =
      (.ok (.reference id Value.functionClass), made) := rfl
  refine .step decorated (.bind (body.bind_ends (grows.kept _ List.not_mem_nil _ isScope) _ _) ?_)
  rintro _ last ⟨binds, isBound⟩
  refine .pure ⟨rfl, (grows.mono (List.nil_subset _)).trans binds, id, ?_, ?_⟩
  · refine binds.kept id ?_ _ kept
    rw [List.mem_singleton]
    rintro rfl
    cases (grows.kept _ List.not_mem_nil _ isScope).symm.trans kept
  · rwa [same] at isBound

end

/-! ## The class -/

/-- The member is a function of the language that its class keeps for itself. -/
def Member.isNative : Member → Bool
  | .value (.wrapping _ (.descriptor ..)) => true
  | _ => false

/-- A class can be declared below the class, and no code runs when that is done: only the function of the language
    takes notice of it. -/
structure World.IsOpenBase (w : World) (parent : ClassName) : Prop where
  known : (w.class? parent).isSome = true
  noList : parent ≠ genericClass
  extensible : w.isExtensible parent = true
  distinct : (w.orderOf parent).Nodup
  unnoticed : (w.lookup parent "__init_subclass__").all (·.2.isNative) = true

/-- What the function is for as a member of a class. -/
def ClassInfo.Defines (info : ClassInfo) (store : Store) (name : String) (function : Function) : Prop :=
  ∃ id, info.member? name = some (.value (.reference id Value.functionClass)) ∧ store.KeepsFunction id function

/-- The class is the one of the wrapper, under this name: it has a single base, and behind the text of its module it
    defines the constructor, and the overrides in order. -/
structure Wrapper.Class.Makes (c : Wrapper.Class) (w : World) (name parent : ClassName) (store : Store)
    (info : ClassInfo) : Prop where
  isChild : info = w.childOf name parent info.members
  names : info.members.map (·.1) = "__module__" :: "__init__" :: c.overrides.map (·.name)
  isText : ∃ place, info.member? "__module__" = some (.value (.text place name.module))
  constructs : ∃ f : Frame, f.IsClassBody name ∧ info.Defines store "__init__" (c.constructor f name)
  overrides : ∀ o ∈ c.overrides, ∃ (f : Frame) (defaults : List (Option Value)), f.IsClassBody name ∧
    defaults.length = o.parameters.length + 1 ∧ info.Defines store o.name (o.function f defaults)

section

variable {e : Engine} {f : Frame} {store : Store} {names outer : List (String × Value)}

/-- The body of a class starts with the names of its module and of itself. -/
theorem Engine.classFrame_ends (isOuter : f.IsOuter) (top : f.kind = .module)
    (isScope : store.entities[f.globals]? = some (.scope outer)) (name : String) (body : List Stmt)
    (noText : ∀ shown rest, body ≠ .expression (.literal (.text shown)) :: rest)
    (noGlobals : Outline.globalNames (bodyOutline name body) = []) :
    (classFrame f name body).Ends store fun inner last => inner.IsClassBody ⟨f.module, name⟩ ∧
      inner.globals = f.globals ∧ store.Grows [] last ∧ ∃ place path, last.entities[inner.scope]? =
        some (.scope [("__module__", .text place f.module), ("__qualname__", path)]) := by
  have path : f.pathOf name = name := by rw [Frame.pathOf, top]
  have visible : f.visible = [] := by rw [Frame.visible, top, isOuter.around]
  unfold classFrame
  simp only [path, visible, noGlobals]
  refine .bind (Run.newText_ends f.module store) ?_
  rintro module first ⟨⟨place, rfl⟩, grows, _⟩
  refine .bind (Run.newText_ends name first) ?_
  rintro path second ⟨_, further, _⟩
  refine .bind (Run.allocate_ends _ second) ?_
  rintro scope last ⟨fresh, isOwn, onward⟩
  refine ⟨_, last, rfl, ⟨⟨.inr rfl, rfl, rfl⟩, rfl, rfl, rfl, rfl, rfl, ?_⟩, rfl, (grows.trans further).trans onward,
    place, path, isOwn⟩
  intro (same : scope = f.globals)
  rw [same] at fresh
  cases fresh.symm.trans ((grows.trans further).kept _ List.not_mem_nil _ isScope)

/-- The store with one more class. -/
def Store.withClass (store : Store) (info : ClassInfo) : Store :=
  { store with world := store.world.withClass info }

/-- A class is made below an open base, with members of different names. -/
theorem Engine.makeClass_start (declared : store.world.Declared) {parent : ClassName}
    (isOpen : store.world.IsOpenBase parent) {name : ClassName} (outside : name ∉ store.world.orderOf parent)
    {members : List (String × Value)} (distinct : (members.map (·.1)).Nodup) :
    (e.makeClass name [store.world.classValue parent] members).start store = (.ok (.ofClass name),
      store.withClass (store.world.childOf name parent (members.map fun m => (m.1, .value m.2)))) := by
  obtain ⟨isEnum, isValue⟩ := World.classValue_eq store.world parent
  let entries : List (String × Member) := members.map fun m => (m.1, .value m.2)
  have names : (entries.map (·.1)).Nodup := by
    rw [List.map_map]
    exact distinct
  have known : Run.world.start store = (.ok store.world, store) := rfl
  have made := declared.classFor_child isOpen.extensible isOpen.distinct isOpen.noList isOpen.known name isEnum names
  have lifted := congrArg (fun outcome => (Run.lift outcome).start store) made
  let info := store.world.childOf name parent entries
  have isAbove : (store.world.withClass info).lookupIn "__init_subclass__" (store.world.orderOf parent) =
      store.world.lookup parent "__init_subclass__" := World.lookupIn_withClass outside
  rw [makeClass, Run.bind_ok known, isValue]
  refine (Run.bind_ok lifted).trans ?_
  have declares : (modify fun later => { later with world := store.world.withClass info } : Run Unit).start store =
      (.ok (), store.withClass info) := rfl
  refine (Run.bind_ok declares).trans ?_
  have hook : (memberIn? "__init_subclass__" (store.world.orderOf parent)).start (store.withClass info) =
      (.ok ((store.world.lookup parent "__init_subclass__").map fun found =>
        (found.1, rawMember found.1 "__init_subclass__" found.2)), store.withClass info) := by
    rw [← isAbove]
    rfl
  refine (Run.bind_ok hook).trans ?_
  have unnoticed := isOpen.unnoticed
  cases found : store.world.lookup parent "__init_subclass__" with
  | none => rfl
  | some pair =>
    obtain ⟨owner, member⟩ := pair
    rw [found, Option.all_some, Member.isNative.eq_def] at unnoticed
    dsimp only at unnoticed
    split at unnoticed
    · rfl
    · cases unnoticed

end

/-- The names of the class keep out of each other's way: the subject is not named as what the overrides read besides,
    nothing is named as what the body starts with, and no override as a later one, or as what that reads. -/
structure Wrapper.Class.IsClear (c : Wrapper.Class) : Prop where
  subject : c.subjectName ≠ "override" ∧ c.subjectName ≠ "set"
  special : ∀ o ∈ c.overrides, ∀ name ∈ o.name :: o.reads c.subjectName,
    name ∉ ["__module__", "__qualname__", "__init__"]
  apart : c.overrides.Pairwise fun o later => o.name ∉ later.name :: later.reads c.subjectName

section

variable {e : Engine} {f : Frame} {c : Wrapper.Class} {store : Store} {names : List (String × Value)}

/-- The body of the class makes its functions in order, behind the names that it starts with. -/
private theorem Engine.runAll_body {name : ClassName} (body : f.IsClassBody name) (rules : c.KeepsRules)
    (chosen : ∀ o ∈ c.overrides, o.ChoosesNames) (clear : c.IsClear) (unchanged : store.revised = [])
    {module path : Value} (sees : f.Sees store [("__module__", module), ("__qualname__", path)] names)
    (imported : names.lookup "override" = some (.builtin "override"))
    (evaluates : ∀ o ∈ c.overrides, o.Evaluates e f store.world names c.subjectName) :
    (e.runAll f c.body).Ends store fun _ last => store.Grows [f.scope] last ∧
      ∃ init made, last.KeepsFunction init (c.constructor f name) ∧
        List.Forall₂ (fun o entry => o.MadeIn f last entry) c.overrides made ∧
        last.entities[f.scope]? = some (.scope ([("__module__", module), ("__qualname__", path),
          ("__init__", .reference init Value.functionClass)] ++ made)) := by
  rw [Class.body, runAll]
  refine .bind (runStatement_constructor body c sees.own) ?_
  rintro signal middle ⟨rfl, grows, init, kept, isBound⟩
  have outside : f.globals ∉ [f.scope] := by
    rw [List.mem_singleton]
    exact Ne.symm body.apart
  have free : ∀ o ∈ c.overrides, ∀ read ∈ o.name :: o.reads c.subjectName, [("__module__", module),
      ("__qualname__", path), ("__init__", Value.reference init Value.functionClass)].lookup read = none := by
    intro o among read inside
    have others := clear.special o among read inside
    simp only [List.mem_cons, List.not_mem_nil, or_false, not_or] at others
    simpa [List.lookup_eq_none_iff] using others
  refine (runAll_overrides body imported grows.world (grows.revised.trans unchanged)
    ⟨isBound, grows.kept _ outside _ sees.outer⟩ (fun o among => ⟨rules.overrides o among, chosen o among,
      evaluates o among⟩) free clear.apart).imp ?_
  rintro signal last ⟨_, further, made, areMade, areBound⟩
  refine ⟨grows.trans further, init, made, further.kept init ?_ _ kept, areMade, areBound⟩
  rw [List.mem_singleton]
  rintro rfl
  cases isBound.symm.trans kept

private theorem lookup_of_mem {α : Type} {name : String} {a : α} : ∀ {entries : List (String × α)},
    (entries.map (·.1)).Nodup → (name, a) ∈ entries → entries.lookup name = some a
  | (key, _) :: entries, distinct, among => by
    obtain ⟨fresh, distinct⟩ := List.nodup_cons.1 distinct
    rcases List.mem_cons.1 among with here | behind
    · cases here
      exact List.lookup_cons_self
    · have differs : name ≠ key := by
        rintro rfl
        exact fresh (List.mem_map.2 ⟨_, behind, rfl⟩)
      rw [List.lookup_cons, beq_false_of_ne differs]
      exact lookup_of_mem distinct behind

private theorem names_of_madeIn : ∀ {overrides : List Override} {made : List (String × Value)},
    List.Forall₂ (fun o entry => o.MadeIn f store entry) overrides made → made.map (·.1) = overrides.map (·.name)
  | _, _, .nil => rfl
  | _, _, .cons ⟨_, _, same, _⟩ behind => by
    rw [List.map_cons, List.map_cons, names_of_madeIn behind, same]

private theorem Wrapper.Class.IsClear.distinct (clear : c.IsClear) :
    ("__module__" :: "__init__" :: c.overrides.map (·.name)).Nodup := by
  have special : ∀ name ∈ c.overrides.map (·.name), name ∉ ["__module__", "__qualname__", "__init__"] := by
    intro name among
    obtain ⟨o, inside, rfl⟩ := List.mem_map.1 among
    exact clear.special o inside _ List.mem_cons_self
  rw [List.nodup_cons, List.nodup_cons]
  refine ⟨?_, fun among => special _ among (by simp), ?_⟩
  · rw [List.mem_cons, not_or]
    exact ⟨by decide, fun among => special _ among (by simp)⟩
  · rw [List.Nodup, List.pairwise_map]
    exact clear.apart.imp fun apart => fun same => apart (same ▸ List.mem_cons_self)

/-- The statement of the class makes the class, and binds it. -/
theorem Engine.runStatement_class (isOuter : f.IsOuter) (top : f.kind = .module) (same : f.globals = f.scope)
    (rules : c.KeepsRules) (chosen : ∀ o ∈ c.overrides, o.ChoosesNames) (clear : c.IsClear)
    (unchanged : store.revised = []) (isScope : store.entities[f.scope]? = some (.scope names))
    (imported : names.lookup "override" = some (.builtin "override")) {parent : ClassName}
    (isSubject : names.lookup c.subjectName = some (store.world.classValue parent)) (declared : store.world.Declared)
    (isOpen : store.world.IsOpenBase parent) (outside : ⟨f.module, c.name⟩ ∉ store.world.orderOf parent)
    (evaluates : ∀ inner : Frame, inner.IsClassBody ⟨f.module, c.name⟩ →
      ∀ o ∈ c.overrides, o.Evaluates e inner store.world names c.subjectName) :
    (e.runStatement f c.tree).Ends store fun signal last => signal = .next ∧
      ∃ info, c.Makes store.world ⟨f.module, c.name⟩ parent last info ∧ last.world = store.world.withClass info ∧
        last.revised = store.revised ∧ last.entities[f.scope]? =
          some (.scope (Run.bindName names c.name (.ofClass ⟨f.module, c.name⟩))) := by
  let name : ClassName := ⟨f.module, c.name⟩
  have marks : (([] : List Expr).mapM (e.evaluate f)).start store = (.ok [], store) := rfl
  have isGlobal : store.entities[f.globals]? = some (.scope names) := by rw [same, isScope]
  have subject : (e.evaluate f (.name c.subjectName)).start store = (.ok (store.world.classValue parent), store) := by
    rw [evaluate]
    refine isOuter.value_start ⟨isScope, isGlobal⟩ ?_
    rw [Frame.inside, rules.subjectName.inside, isSubject]
    rfl
  have base : (e.evaluateCall f {} [.positional (.name c.subjectName)]).start store =
      (.ok { positional := [store.world.classValue parent] }, store) := by
    rw [evaluateCall, Run.bind_ok subject]
    rfl
  have framed := classFrame_ends isOuter top isGlobal c.name c.body (by rintro _ _ ⟨⟩)
    (rules.body_isUndeclaring c.name).globalNames
  rw [Class.tree, rules.name.normal, rules.subjectName.normal, runStatement]
  refine .step marks (.step base (.bind framed ?_))
  rintro inner first ⟨body, isModule, grows, place, path, isOwn⟩
  let module : Value := .text place f.module
  have sees : inner.Sees first [("__module__", module), ("__qualname__", path)] names :=
    ⟨isOwn, by rw [isModule]; exact grows.kept _ List.not_mem_nil _ isGlobal⟩
  have ran := runAll_body (e := e) body rules chosen clear (grows.revised.trans unchanged) sees imported
    (by rw [grows.world]; exact evaluates inner body)
  rw [Run.discard_eq, bind_assoc]
  refine .bind ran ?_
  rintro _ second ⟨further, init, made, isInit, areMade, areBound⟩
  let members : List (String × Value) :=
    ("__module__", module) :: ("__init__", .reference init Value.functionClass) :: made
  have isMembers : ([("__module__", module), ("__qualname__", path),
      ("__init__", .reference init Value.functionClass)] ++ made).filter (·.1 != "__qualname__") = members := by
    have kept : made.filter (·.1 != "__qualname__") = made := by
      refine List.filter_eq_self.2 fun entry among => ?_
      obtain ⟨o, inside, _, _, same, _⟩ := mem_right_of_forall₂ areMade among
      have others := clear.special o inside _ List.mem_cons_self
      simp only [List.mem_cons, List.not_mem_nil, or_false, not_or] at others
      rw [same]
      simpa using others.2.1
    simp [kept, members]
  have distinct : (members.map (·.1)).Nodup := by
    rw [List.map_cons, List.map_cons, names_of_madeIn areMade]
    exact clear.distinct
  have isWorld : second.world = store.world := further.world.trans grows.world
  let info := store.world.childOf name parent (members.map fun m => (m.1, .value m.2))
  have makes : (e.classFromFrame inner { positional := [store.world.classValue parent] }).start second =
      (.ok (.ofClass name), second.withClass info) := by
    have made := makeClass_start (e := e) (show second.world.Declared by rwa [isWorld])
      (show second.world.IsOpenBase parent by rwa [isWorld])
      (show name ∉ second.world.orderOf parent by rwa [isWorld]) distinct
    rw [isWorld] at made
    rw [classFromFrame, Run.bind_ok (Run.namesOf_start areBound), isMembers, body.module, body.path]
    exact made
  have decorated : (e.decorate (.ofClass name) []).start (second.withClass info) =
      (.ok (.ofClass name), second.withClass info) := rfl
  have apart : f.scope ∉ [inner.scope] := by
    rw [List.mem_singleton, ← same, ← isModule]
    exact Ne.symm body.apart
  have isScope : (second.withClass info).entities[f.scope]? = some (.scope names) :=
    further.kept _ apart _ (grows.kept _ List.not_mem_nil _ isScope)
  refine .step rfl (.step makes (.step decorated (.bind (isOuter.bind_ends isScope c.name (.ofClass name)) ?_)))
  rintro _ last ⟨binds, isBound⟩
  have notScope : ∀ {id : Nat} {function : Function}, second.KeepsFunction id function → id ∉ [f.scope] := by
    intro id function kept
    rw [List.mem_singleton]
    rintro rfl
    cases isScope.symm.trans kept
  refine .pure ⟨rfl, info, ?_, ?_, ?_, ?_⟩
  · constructor
    case isChild => rfl
    case names =>
      rw [← names_of_madeIn areMade]
      simp [info, World.childOf, members]
    case isText => exact ⟨place, rfl⟩
    case constructs => exact ⟨inner, body, init, rfl, binds.kept init (notScope isInit) _ isInit⟩
    case overrides =>
      intro o among
      obtain ⟨entry, inside, id, defaults, rfl, count, kept⟩ := mem_left_of_forall₂ areMade among
      refine ⟨inner, defaults, body, count, id, ?_, binds.kept id (notScope kept) _ kept⟩
      have distinct : (info.members.map (·.1)).Nodup := by
        rw [show info.members = members.map fun m => (m.1, .value m.2) from rfl, List.map_map]
        exact distinct
      exact lookup_of_mem distinct <| List.mem_map.2 ⟨_, List.mem_cons_of_mem _ (List.mem_cons_of_mem _ inside), rfl⟩
  · exact binds.world.trans (by rw [← isWorld]; rfl)
  · exact binds.revised.trans (further.revised.trans grows.revised)
  · rw [isBound, Frame.inside, rules.name.inside]

end

/-! ## The module -/

/-- A dotted path is put together again from its pieces. -/
theorem Text.pathPieces_join (path : String) : ".".intercalate (Text.pathPieces path) = path := by
  rw [← String.toList_inj, String.toList_intercalate, Text.pathPieces, List.map_map]
  exact (congrArg _ (List.map_id'' (fun _ => String.toList_ofList) _)).trans (splitPoints_join _)

namespace World

/-- No module of the world stands in the place of one that a wrapper module imports from. -/
def KeepsLibrary (w : World) : Prop :=
  ∀ module ∈ ["__future__", "collections.abc", "typing", "typing_extensions", "iterwrap.subject"], module ∉ w.modules

/-- What the imports that all wrappers share bind. -/
def sharedImports : List (List (String × Value)) :=
  [[("annotations", futureFeature)], [("Iterable", .ofClass (Library.collectionClass "Iterable"))],
   [("Annotated", .ofClass Library.annotatedClass)], [("override", .builtin "override")],
   [("FailureStrategy", .ofClass reporterClass), ("SubjectFactory", .ofClass factoryClass)]]

variable {w : World}

private theorem importName_library {module name : String} {value : Value} (outside : module ∉ w.modules)
    (isLibrary : (supportModules.contains module || libraryModules.contains module) = true) (noName : name ≠ "__name__")
    (found : libraryName? w module name = some value) : w.importName module name = .ok value := by
  have absent : w.modules.contains module = false := by simpa using outside
  have importable : w.isImportable module = true := by
    rw [isImportable]
    rcases (Bool.or_eq_true _ _).mp isLibrary with support | known
    · rw [support, Bool.true_or]
    · rw [importModule, importWithin, hasModule, known, Bool.or_true, if_pos rfl]
      exact Bool.or_true _
  rw [importName, importable, absent, Bool.or_true, if_pos rfl, nameIn?, if_neg noName, absent, found]
  rfl

private theorem imports_shared (keeps : w.KeepsLibrary) :
    List.Forall₂ w.Imports Wrapper.Class.importTrees sharedImports := by
  have one {s : Stmt} {entries : List (String × Value)} (path : List String) (module : String)
      (isModule : ".".intercalate path = module)
      (isImport : s = .importNames 0 path (some (entries.map fun entry => (entry.1, none))))
      (outside : module ∉ w.modules)
      (isLibrary : (supportModules.contains module || libraryModules.contains module) = true)
      (each : ∀ entry ∈ entries, entry.1 ≠ "__name__" ∧ libraryName? w module entry.1 = some entry.2) :
      w.Imports s entries := by
    refine ⟨path, isImport, fun entry among => ?_⟩
    rw [isModule]
    exact importName_library outside isLibrary (each entry among).1 (each entry among).2
  have outside := keeps
  simp only [KeepsLibrary, List.forall_mem_cons] at outside
  obtain ⟨future, collections, typing, extensions, subject, _⟩ := outside
  have iterable : libraryName? w "collections.abc" "Iterable" =
      some (.ofClass (Library.collectionClass "Iterable")) := by
    rw [libraryName?, if_neg (by decide), if_neg (by decide), if_neg (by decide), if_neg (by decide),
      if_pos (by decide), if_pos (by decide)]
  have annotated : libraryName? w "typing" "Annotated" = some (.ofClass Library.annotatedClass) := by
    rw [libraryName?, if_neg (by decide), if_neg (by decide), if_neg (by decide), if_neg (by decide),
      if_neg (by decide), if_pos (by decide)]
    rfl
  refine .cons (one ["__future__"] _ rfl rfl future (by decide) ?_) <|
    .cons (one ["collections", "abc"] _ rfl rfl collections (by decide) ?_) <|
    .cons (one ["typing"] _ rfl rfl typing (by decide) ?_) <|
    .cons (one ["typing_extensions"] _ rfl rfl extensions (by decide) ?_) <|
    .cons (one ["iterwrap", "subject"] _ rfl rfl subject (by decide) ?_) .nil
  · simpa using show libraryName? w "__future__" "annotations" = some futureFeature from rfl
  · simpa using iterable
  · simpa using annotated
  · simpa using show libraryName? w "typing_extensions" "override" = some (.builtin "override") from rfl
  · simp only [List.forall_mem_cons]
    exact ⟨⟨by decide, rfl⟩, ⟨by decide, rfl⟩, by simp⟩

/-- A class at the top of a module is imported from there. -/
theorem importName_class {name : ClassName} (top : name.isTopLevel = true) (noName : name.path ≠ "__name__")
    (inModule : name.module ∈ w.modules) {c : ClassInfo} (inside : c ∈ w.classes) (isName : c.name = name) :
    w.importName name.module name.path = .ok (w.classValue name) := by
  have isModule : w.modules.contains name.module = true := by simpa using inModule
  have sameTest : (fun c : ClassInfo => c.name.isTopLevel && c.name.module == name.module && c.name.path == name.path) =
      fun c => c.name == name := by
    funext other
    rw [Bool.eq_iff_iff, Bool.and_eq_true, Bool.and_eq_true, beq_iff_eq, beq_iff_eq, beq_iff_eq]
    constructor
    · rintro ⟨⟨_, module⟩, path⟩
      exact congrArg₂ ClassName.mk module path
    · rintro rfl
      exact ⟨⟨top, rfl⟩, rfl⟩
  obtain ⟨found, isFound⟩ := Option.isSome_iff_exists.1
    (List.find?_isSome.2 ⟨c, inside, beq_iff_eq.2 isName⟩ : (w.classes.find? (·.name == name)).isSome = true)
  have value : w.classValue name = found.value := by
    have isClass : w.class? name = some found := by rw [class?, isFound, Option.some_or]
    have isSame := List.find?_some isFound
    rw [classValue, kindOf?, isClass, ClassInfo.value, eq_of_beq isSame, Option.map_some]
    cases found.kind <;> rfl
  rw [importName, isModule, Bool.true_or, if_pos rfl, nameIn?, if_neg noName, isModule, if_pos rfl, topLevel?, sameTest,
    isFound, value]
  rfl

/-- The subject class is imported by its simple name, if that and the names of its packages are in their normal
    form. -/
theorem imports_package {c : Wrapper.Class} {parent : ClassName} (package : c.package = parent.module)
    (isSubject : c.subjectName = parent.path) (normal : Text.normalized parent.path = parent.path)
    (pieces : ∀ piece ∈ Text.pathPieces parent.module, Text.normalized piece = piece)
    (given : w.importName parent.module parent.path = .ok (w.classValue parent)) :
    w.Imports c.packageTree [(c.subjectName, w.classValue parent)] := by
  have same : (Text.pathPieces c.package).map Text.normalized = Text.pathPieces parent.module := by
    rw [package]
    exact (List.map_congr_left pieces).trans (List.map_id _)
  refine ⟨Text.pathPieces parent.module, ?_, fun entry among => ?_⟩
  · rw [Wrapper.Class.packageTree, same, isSubject, normal]
    rfl
  · rw [List.mem_singleton.1 among, Text.pathPieces_join, isSubject]
    exact given

end World

section

variable {store : Store} {source : WrapperSource} {c : Wrapper.Class} {parent : ClassName}

/-- A module starts with the names that every module has. -/
private theorem moduleFrame_ends (module : String) (store : Store) :
    (Run.moduleFrame module []).Ends store fun f last => f.IsOuter ∧ f.kind = .module ∧ f.globals = f.scope ∧
      f.owner = "" ∧ f.module = module ∧ store.Grows [] last ∧
      ∃ names, last.entities[f.scope]? = some (.scope names) ∧ names.lookup "set" = none := by
  unfold Run.moduleFrame
  refine .bind (Run.newText_ends module store) ?_
  rintro text first ⟨_, grows, _⟩
  refine .bind (Run.allocate_ends _ first) ?_
  rintro scope last ⟨_, isOwn, further⟩
  exact .pure ⟨⟨.inl rfl, rfl, rfl⟩, rfl, rfl, rfl, rfl, grows.trans further, _, isOwn, rfl⟩

/-- A module of the class loads: its class is made below the subject class that is imported. -/
theorem WrapperSource.load_ends (isText : source.statements = .ok c.module) (isName : source.className = c.name)
    (rules : c.KeepsRules) (chosen : ∀ o ∈ c.overrides, o.ChoosesNames) (clear : c.IsClear)
    (unchanged : store.revised = []) (declared : store.world.Declared) (keeps : store.world.KeepsLibrary)
    (imported : store.world.Imports c.packageTree [(c.subjectName, store.world.classValue parent)])
    (isOpen : store.world.IsOpenBase parent) (outside : ⟨source.qualifiedName, c.name⟩ ∉ store.world.orderOf parent)
    (evaluates : ∀ (f : Frame) (outer : List (String × Value)), f.IsClassBody ⟨source.qualifiedName, c.name⟩ →
      outer.lookup c.subjectName = some (store.world.classValue parent) → outer.lookup "set" = none →
      ∀ o ∈ c.overrides, o.Evaluates engine f store.world outer c.subjectName) :
    source.load.Ends store fun value last => value = .ofClass ⟨source.qualifiedName, c.name⟩ ∧
      ∃ info, c.Makes store.world ⟨source.qualifiedName, c.name⟩ parent last info ∧
        last.world = store.world.withClass info ∧ last.revised = store.revised := by
  have lifted : (Run.lift source.statements).start store = (.ok c.module, store) := by
    rw [isText]
    rfl
  rw [WrapperSource.load]
  refine .step lifted (.bind (moduleFrame_ends _ store) ?_)
  rintro f first ⟨isOuter, top, same, noOwner, isModule, grows, names, isScope, noSet⟩
  have imports : List.Forall₂ first.world.Imports (Wrapper.Class.importTrees ++ [c.packageTree])
      (World.sharedImports ++ [[(c.subjectName, store.world.classValue parent)]]) := by
    rw [grows.world]
    exact List.rel_append (World.imports_shared keeps) (.cons imported .nil)
  let entries := (World.sharedImports ++ [[(c.subjectName, store.world.classValue parent)]]).flatten
  have isEntries : entries = World.sharedImports.flatten ++ [(c.subjectName, store.world.classValue parent)] :=
    List.flatten_append
  have inside : ∀ entry ∈ entries, f.inside entry.1 = entry.1 := by
    have isOpenName : ∀ name ∈ entries.map (·.1), isPrivate name = false := by
      rw [isEntries, List.map_append]
      refine List.forall_mem_append.2 ⟨by decide, ?_⟩
      simpa using rules.subjectName.notPrivate
    exact fun entry among => Frame.inside_notPrivate (isOpenName _ (List.mem_map_of_mem among)) f
  have known (name : String) : (Run.bindNames names entries).lookup name =
      if name = c.subjectName then some (store.world.classValue parent)
      else (World.sharedImports.flatten.reverse.lookup name).or (names.lookup name) := by
    rw [Run.lookup_bindNames, isEntries, List.reverse_append, List.lookup_append]
    by_cases isSubject : name = c.subjectName
    · simp [isSubject]
    · have none : [(c.subjectName, store.world.classValue parent)].reverse.lookup name = none := by
        rw [List.reverse_singleton, List.lookup_cons, beq_false_of_ne isSubject]
        rfl
      rw [none, Option.none_or, if_neg isSubject]
  have ran : (engine.runAll f c.module).Ends first fun _ last => ∃ info bound,
      c.Makes store.world ⟨source.qualifiedName, c.name⟩ parent last info ∧
        last.world = store.world.withClass info ∧ last.revised = store.revised ∧
        last.entities[f.scope]? = some (.scope bound) ∧
        bound.lookup c.name = some (.ofClass ⟨source.qualifiedName, c.name⟩) := by
    rw [show c.module = (Wrapper.Class.importTrees ++ [c.packageTree]) ++ [c.tree] by rw [List.append_assoc]; rfl]
    refine Engine.runAll_imports isOuter imports isScope inside fun later further isBound => ?_
    have isWorld : later.world = store.world := further.world.trans grows.world
    have isRevised : later.revised = store.revised := further.revised.trans grows.revised
    have isSubject : (Run.bindNames names entries).lookup c.subjectName = some (later.world.classValue parent) := by
      rw [known, if_pos rfl, isWorld]
    have noSets : (Run.bindNames names entries).lookup "set" = none := by
      rw [known, if_neg (Ne.symm clear.subject.2), noSet]
      rfl
    have mark : (Run.bindNames names entries).lookup "override" = some (.builtin "override") := by
      rw [known, if_neg (Ne.symm clear.subject.1)]
      rfl
    rw [Engine.runAll]
    refine .bind (Engine.runStatement_class isOuter top same rules chosen clear (isRevised.trans unchanged) isBound mark
      isSubject (by rwa [isWorld]) (by rwa [isWorld]) (by rwa [isWorld, isModule]) ?_) ?_
    · rw [isModule, isWorld]
      rw [isWorld] at isSubject
      exact fun inner body => evaluates inner _ body isSubject noSets
    · rintro signal last ⟨rfl, info, makes, made, revised, binds⟩
      rw [isModule, isWorld] at *
      refine ⟨_, last, rfl, info, _, makes, made, revised.trans isRevised, binds, ?_⟩
      rw [Run.lookup_bindName, if_pos rfl]
  rw [Run.discard_eq, bind_assoc]
  refine .bind ran ?_
  rintro _ last ⟨info, bound, makes, made, revised, isBound, isClass⟩
  refine .step rfl (.step (Run.namesOf_start isBound) ?_)
  rw [isName, isClass]
  exact .pure ⟨rfl, info, makes, made, revised⟩

end

end EachSubject
