import EachSubject.Proofs.Checks.Steps
import EachSubject.Proofs.Wrapping

/-!
# What wrapper classes and their objects give

An object of a wrapper class gives the override of each eligible method bound to itself, unless it keeps an attribute of
its own under the name. All other methods of the subject class are found on the wrapper class as they are found on the
subject class.

The constructors write into the same namespace in which the subject class declares its methods. Where the base class of
subjects sets up the objects, a new object keeps five attributes, so that just methods of these names are hidden.
-/

namespace EachSubject

open Source Wrapper Description

/-! ## Setting up objects -/

namespace Engine

section

variable {e : Engine} {store : Store} {id : Nat} {owner : ClassName} {held : List (String × Value)}

/-- An attribute is kept by its object, and nothing else changes. -/
theorem setAttribute_ends {name : String} (plainly : SetsPlainly store.world owner name)
    (isObject : store.entities[id]? = some (.object held)) (value : Value) :
    (e.setAttribute (.reference id owner) name value).Ends store fun _ last =>
      store.Grows [id] last ∧ last.entities[id]? = some (.object (Run.bindName held name value)) := by
  have inside := (Array.getElem?_eq_some_iff.1 isObject).1
  refine ⟨(), _, setAttribute_start plainly isObject value, ⟨rfl, rfl, fun other outside entity found => ?_⟩,
    Array.getElem?_setIfInBounds_self_of_lt inside⟩
  exact (Array.getElem?_setIfInBounds_ne (Ne.symm (List.ne_of_not_mem_cons outside))).trans found

end

section

variable {e : Engine} {store : Store} {constructor : Value} {f : Function}

/-- A constructor that is a function runs with the object in front of the arguments. -/
theorem runConstructor_ends (isFunction : isFunction constructor = true)
    (found : (functionOf? constructor).start store = (.ok (some f), store)) {object : Value} {call : Call}
    {holds : Store → Prop}
    (ran : (e.run f (withReceiver object call)).Ends store fun result last => result = .none ∧ holds last) :
    (e.runConstructor constructor object call).Ends store fun _ last => holds last := by
  have called : e.runConstructor constructor object call = (do
      let result ← e.callFunction constructor (withReceiver object call)
      if !Value.isSame result .none then throw .mismatch) := by
    rw [Engine.isFunction.eq_def] at isFunction
    split at isFunction
    · rfl
    · rfl
    · cases isFunction
  rw [called, callFunction, bind_assoc]
  refine .step found (.bind ran ?_)
  rintro _ last ⟨rfl, here⟩
  exact .pure here

end

/-- The constructor of the base class of subjects. -/
def subjectConstructor : Function where
  module := subjectClass.module
  name := "__init__"
  parameters :=
    [Library.selfParameter, Library.typed "failure_strategy" "FailureStrategy", Library.typed "actual" "T | None"]
  returns := some (Library.written "None")
  body := .ofSubject .construct

section

variable {store : Store} {id : Nat} {owner : ClassName}

/-- The base class of subjects sets up its objects with what they report to, what they check, and no name. -/
theorem runConstructor_subject (itemLimit depth : Nat)
    (isSubject : store.world.class? subjectClass = some Library.subject)
    (plainly : ∀ name ∈ ["failure_strategy", "_actual", "_name"], SetsPlainly store.world owner name)
    (isObject : store.entities[id]? = some (.object [])) (reporter actual : Value) :
    ((nested itemLimit (depth + 1)).runConstructor (.function subjectClass "__init__") (.reference id owner)
      { positional := [reporter, actual] }).Ends store fun _ last => store.Grows [id] last ∧
        last.entities[id]? =
          some (.object [("failure_strategy", reporter), ("_actual", actual), ("_name", .none)]) := by
  have found : (functionOf? (.function subjectClass "__init__")).start store =
      (.ok (some subjectConstructor), store) := by
    have known : Run.world.start store = (.ok store.world, store) := rfl
    rw [functionOf?, Run.bind_ok known, isSubject]
    rfl
  let self : Value := .reference id owner
  let arguments : Arguments := [("self", .one self), ("failure_strategy", .one reporter), ("actual", .one actual)]
  have bound : (withReceiver self { positional := [reporter, actual] }).bind? subjectConstructor.parameters =
      some arguments := rfl
  have received (name : String) (value : Value) (given : arguments.lookup name = some (.one value)) (store : Store) :
      (received arguments name).start store = (.ok value, store) := by
    rw [Engine.received, given]
    rfl
  simp only [List.forall_mem_cons] at plainly
  obtain ⟨reports, checks, named, _⟩ := plainly
  refine runConstructor_ends rfl found ?_
  rw [run_ofSubject itemLimit depth rfl rfl bound, runSubjectFunction]
  refine .step (received "self" self rfl store) (.step (received "failure_strategy" reporter rfl store) ?_)
  refine .bind (setAttribute_ends reports isObject reporter) ?_
  rintro _ first ⟨grows, isFirst⟩
  refine .step (received "actual" actual rfl first) ?_
  refine .bind (setAttribute_ends (by rwa [grows.world]) isFirst actual) ?_
  rintro _ second ⟨further, isSecond⟩
  refine .bind (setAttribute_ends (by rwa [further.world, grows.world]) isSecond .none) ?_
  rintro _ last ⟨onward, isLast⟩
  exact .pure ⟨rfl, (grows.trans further).trans onward, isLast⟩

end

/-! ## Making objects -/

end Engine

/-- The class sets up objects, by a constructor of its own or by the fields of a record. -/
def World.setsUp (w : World) (owner : ClassName) : Bool :=
  match w.class? owner with
  | some c =>
    match c.member? "__init__", c.kind with
    | some _, _ => true
    | none, .record _ => true
    | none, _ => false
  | none => false

/-- Calling the class makes an object of it, which its first constructor sets up. -/
structure MakesPlainly (w : World) (owner : ClassName) : Prop where
  made : ∀ definer member, w.lookup owner "__new__" = some (definer, member) → ∃ name, member = .value (.builtin name)
  ordinary : w.kindOf? owner = some .ordinary
  foreign : owner.module ≠ ClassName.builtinModule
  noError : w.isSubclass owner baseErrorClass = false
  transparent : Engine.isOpaque w owner = false
  concrete : Engine.isObjectless w owner = false

namespace Engine

section

variable {store : Store} {owner : ClassName}

/-- The first class in a list that sets up objects is the base class of subjects. -/
theorem construct_subject (e : Engine) (object : Value) (call : Call)
    (isSubject : store.world.class? subjectClass = some Library.subject) (after : List ClassName) :
    ∀ {before : List ClassName}, (∀ owner ∈ before, store.world.setsUp owner = false) →
      (e.construct object call (before ++ subjectClass :: after)).start store =
        (e.runConstructor (.function subjectClass "__init__") object call).start store
  | [], _ => by
    have known : Run.world.start store = (.ok store.world, store) := rfl
    rw [List.nil_append, construct, Run.bind_ok known, isSubject]
    rfl
  | owner :: before, passes => by
    have known : Run.world.start store = (.ok store.world, store) := rfl
    obtain ⟨passesHere, passesBehind⟩ := List.forall_mem_cons.1 passes
    rw [List.cons_append, construct, Run.bind_ok known]
    rw [World.setsUp] at passesHere
    have behind := construct_subject e object call isSubject after passesBehind
    cases found : store.world.class? owner with
    | none => exact behind
    | some c =>
      rw [found] at passesHere
      dsimp only at passesHere ⊢
      cases own : c.member? "__init__" with
      | some member =>
        rw [own] at passesHere
        cases passesHere
      | none =>
        rw [own] at passesHere
        cases kind : c.kind with
        | ordinary => exact behind
        | record fields =>
          rw [kind] at passesHere
          cases passesHere
        | enumeration members mixin => exact behind

/-- An object of the class is made, and then it is set up. -/
theorem instantiate_ends (e : Engine) (plainly : MakesPlainly store.world owner) (unchanged : store.revised = [])
    {call : Call} {holds : Nat → Store → Prop} (constructed : ∀ id (made : Store), store.entities[id]? = none →
      made.entities[id]? = some (.object []) → store.Grows [] made →
      (e.construct (.reference id owner) call (store.world.orderOf owner)).Ends made fun _ last => holds id last) :
    (e.instantiate owner call).Ends store fun value last => ∃ id, value = .reference id owner ∧ holds id last := by
  have known : Run.world.start store = (.ok store.world, store) := rfl
  have makes : (e.makeObject owner call).Ends store fun value last =>
      ∃ id, value = .reference id owner ∧ holds id last := by
    have noType : owner ≠ .builtin "type" := by
      rintro rfl
      exact plainly.foreign rfl
    rw [makeObject]
    refine .step known ?_
    rw [plainly.ordinary]
    dsimp only
    rw [if_neg noType, if_neg plainly.foreign, plainly.noError, plainly.transparent, plainly.concrete]
    refine .bind (Run.allocate_ends _ store) ?_
    rintro id made ⟨fresh, isObject, grows⟩
    refine .bind (constructed id made fresh isObject grows) ?_
    rintro _ last here
    exact .pure ⟨id, rfl, here⟩
  rw [instantiate]
  refine .step known (.step (Run.currentAll_start unchanged call.positional) ?_)
  refine .step (member?_start owner "__new__" store) ?_
  cases found : store.world.lookup owner "__new__" with
  | none => exact makes
  | some pair =>
    obtain ⟨definer, member⟩ := pair
    obtain ⟨name, rfl⟩ := plainly.made definer member found
    exact makes

end

section

variable {f : Function} {owner : ClassName} {call : Call} {arguments : Arguments}

/-- Running the constructor of a wrapper class, one level of calls deeper. -/
theorem run_constructWrapper (itemLimit depth : Nat) (plain : f.form = .plain)
    (isBody : f.body = .constructWrapper owner) (bound : call.bind? f.parameters = some arguments) :
    (nested itemLimit (depth + 1)).run f call = (nested itemLimit depth).constructWrapper owner arguments := by
  have executes : (nested itemLimit (depth + 1)).execute f arguments =
      (do return { result := ← (nested itemLimit depth).constructWrapper owner arguments } : Run Outcome) := by
    change (nested itemLimit depth).runBody f arguments = _
    rw [runBody, isBody]
  rw [run, bound]
  simp only [invoke, plain, executes, bind_assoc, pure_bind, bind_pure]

end

/-- The attributes that the constructors of a wrapper class and of the base class of subjects set. -/
def wrapperAttributes : List String := ["failure_strategy", "_actual", "_name", "_subject_factory", "_data"]

section

variable {f : Function} {owner : ClassName} {store : Store} {id place : Nat} {before after : List ClassName}

/-- The constructor of a wrapper class has the base class of subjects set up an object without a value, and keeps what
    makes subjects, and the data. -/
theorem runConstructor_wrapper (itemLimit depth : Nat) (kept : store.KeepsFunction place f) (plain : f.form = .plain)
    (isBody : f.body = .constructWrapper owner) (parameters : f.parameters =
      ["self", "failure_strategy", "subject_factory", "data"].map fun name => { name })
    (order : store.world.orderOf owner = owner :: (before ++ subjectClass :: after))
    (passes : ∀ owner ∈ before, store.world.setsUp owner = false)
    (isSubject : store.world.class? subjectClass = some Library.subject)
    (plainly : ∀ name ∈ wrapperAttributes, SetsPlainly store.world owner name)
    (isObject : store.entities[id]? = some (.object [])) (reporter factory data : Value) :
    ((nested itemLimit (depth + 2)).runConstructor (.reference place Value.functionClass) (.reference id owner)
      { positional := [reporter, factory, data] }).Ends store fun _ last => store.Grows [id] last ∧
        last.entities[id]? = some (.object [("failure_strategy", reporter), ("_actual", .none), ("_name", .none),
          ("_subject_factory", factory), ("_data", data)]) := by
  have found : (functionOf? (.reference place Value.functionClass)).start store = (.ok (some f), store) := by
    have asked : (Run.entity? place).start store = (.ok store.entities[place]?, store) := rfl
    rw [kept] at asked
    rw [functionOf?]
    exact Run.bind_ok asked
  let self : Value := .reference id owner
  let arguments : Arguments :=
    [("self", .one self), ("failure_strategy", .one reporter), ("subject_factory", .one factory), ("data", .one data)]
  have bound : (withReceiver self { positional := [reporter, factory, data] }).bind? f.parameters = some arguments := by
    rw [parameters]
    rfl
  have received (name : String) (value : Value) (given : arguments.lookup name = some (.one value)) (store : Store) :
      (received arguments name).start store = (.ok value, store) := by
    rw [Engine.received, given]
    rfl
  have known : Run.world.start store = (.ok store.world, store) := rfl
  have above : ((store.world.orderOf owner).dropWhile (· != owner)).drop 1 = before ++ subjectClass :: after := by
    rw [order]
    simp
  simp only [wrapperAttributes, List.forall_mem_cons] at plainly
  obtain ⟨reports, checks, named, makes, holds, _⟩ := plainly
  refine runConstructor_ends rfl found ?_
  rw [run_constructWrapper itemLimit (depth + 1) plain isBody bound, constructWrapper]
  refine .step (received "self" self rfl store) (.step known ?_)
  refine .step (received "failure_strategy" reporter rfl store) ?_
  rw [show self.classOf = owner from rfl, above]
  have constructed : ((nested itemLimit (depth + 1)).construct self { positional := [reporter, .none] }
      (before ++ subjectClass :: after)).Ends store fun _ last => store.Grows [id] last ∧
        last.entities[id]? = some (.object [("failure_strategy", reporter), ("_actual", .none), ("_name", .none)]) := by
    rw [Run.Ends, construct_subject _ self _ isSubject after passes]
    refine runConstructor_subject itemLimit depth isSubject (fun name among => ?_) isObject reporter .none
    simp only [List.mem_cons, List.not_mem_nil, or_false] at among
    rcases among with rfl | rfl | rfl
    · exact reports
    · exact checks
    · exact named
  refine .bind constructed ?_
  rintro _ first ⟨grows, isFirst⟩
  refine .step (received "subject_factory" factory rfl first) ?_
  refine .bind (setAttribute_ends (by rwa [grows.world]) isFirst factory) ?_
  rintro _ second ⟨further, isSecond⟩
  refine .step (received "data" data rfl second) ?_
  refine .bind (setAttribute_ends (by rwa [further.world, grows.world]) isSecond data) ?_
  rintro _ last ⟨onward, isLast⟩
  exact .pure ⟨rfl, (grows.trans further).trans onward, isLast⟩

end

end Engine

/-! ## Lookup below a class -/

namespace World

variable {w : World} {name parent : ClassName}

/-- Lookup on a class goes through its own members, and then on to the class above it. -/
theorem lookup_child (outside : name ∉ w.orderOf parent) (members : List (String × Member)) (member : String) :
    (w.withClass (w.childOf name parent members)).lookup name member =
      ((members.lookup member).map (name, ·)).or (w.lookup parent member) := by
  let info := w.childOf name parent members
  have known : (w.withClass info).class? name = some info := class?_withClass_self w info
  have own : ((w.withClass info).class? name).bind (·.member? member) = members.lookup member := by
    rw [known]
    rfl
  have order : (w.withClass info).orderOf name = name :: w.orderOf parent := by
    rw [orderOf, known]
    rfl
  rw [lookup, order]
  cases found : members.lookup member with
  | some given => exact lookupIn_cons_of_some (own.trans found)
  | none => exact (lookupIn_cons_of_none (own.trans found)).trans (lookupIn_withClass outside)

/-- A class that is not above another one changes nothing about lookup on that. -/
theorem lookup_above {info : ClassInfo} (differs : info.name ≠ parent) (outside : info.name ∉ w.orderOf parent)
    (member : String) : (w.withClass info).lookup parent member = w.lookup parent member := by
  have order : (w.withClass info).orderOf parent = w.orderOf parent := by
    rw [orderOf, class?_withClass_ne w differs, orderOf]
  rw [lookup, order]
  exact lookupIn_withClass outside

end World

/-! ## Methods of wrapper classes -/

/-- The same classes are known as in the other store, and all functions that are objects there are kept. -/
structure Store.Follows (later store : Store) : Prop where
  world : later.world = store.world
  functions : ∀ id f, store.KeepsFunction id f → later.KeepsFunction id f

theorem Store.Follows.trans {store later last : Store} (further : last.Follows later) (first : later.Follows store) :
    last.Follows store where
  world := further.world.trans first.world
  functions id f kept := further.functions id f (first.functions id f kept)

theorem Store.Grows.follows {store later : Store} (grows : store.Grows [] later) : later.Follows store where
  world := grows.world
  functions id _ kept := grows.kept id List.not_mem_nil _ kept

/-- The object gives the override of the method, bound to itself. -/
def Store.GivesOverride (store : Store) (id : Nat) (owner : ClassName) (shape : SubjectShape) (m : MethodShape) :
    Prop :=
  ∃ (o : Override) (frame : Frame) (defaults : List (Option Value)) (place : Nat), m.override shape = .ok o ∧
    frame.IsClassBody owner ∧ defaults.length = o.parameters.length + 1 ∧
    store.KeepsFunction place (o.function frame defaults) ∧
    (engine.getAttribute (.reference id owner) m.name).start store =
      (.ok (.bound (.reference id owner) (.reference place Value.functionClass)), store)

/-- In the store, objects of the class give the overrides of the eligible methods, unless they keep an attribute of the
    name. Under the name of any other method lookup gives on the class just what it gives on the subject class, and so
    do the classes themselves, where a class method is bound to the class that is asked. -/
structure ClassInfo.Inherits (info : ClassInfo) (w : World) (subject : ClassName) (shape : SubjectShape)
    (store : Store) : Prop where
  overrides : ∀ m ∈ shape.eligibleMethods, ∀ id, (store.attributesOf id).lookup m.name = none →
    store.GivesOverride id info.name shape m
  others : ∀ found ∈ methods w subject, found.name ∉ shape.eligibleMethods.map (·.name) →
    store.world.lookup info.name found.name = w.lookup subject found.name ∧
    (engine.getAttribute info.value found.name).start store =
      (.ok (Engine.methodOn store.world info.name found), store) ∧
    (engine.getAttribute (w.classValue subject) found.name).start store =
      (.ok (Engine.methodOn store.world subject found), store)

/-- Objects of a class below this one are made, set up, and given attributes, just as those of the base class of
    subjects are. -/
structure World.SetsUpSubjects (w : World) (subject : ClassName) : Prop where
  made : ∀ definer member, w.lookup subject "__new__" = some (definer, member) → ∃ name, member = .value (.builtin name)
  setsUp : ∃ before after, w.orderOf subject = before ++ subjectClass :: after ∧
    ∀ owner ∈ before, w.setsUp owner = false
  sets : ∀ name ∈ Engine.wrapperAttributes, SetsPlainly w subject name
  noError : w.isSubclass subject baseErrorClass = false
  transparent : Engine.isOpaque w subject = false
  concrete : w.isAbstract subject = false

/-- Calling the class in the store makes an object with just the attributes that the constructors set. The object gives
    the override of each eligible method, unless it goes by the name of one of these. -/
def ClassInfo.Constructs (info : ClassInfo) (shape : SubjectShape) (store : Store) : Prop :=
  ∀ reporter factory data, (engine.call info.value { positional := [reporter, factory, data] }).Ends store
    fun object after => ∃ id, object = .reference id info.name ∧ after.Follows store ∧
      after.attributesOf id = [("failure_strategy", reporter), ("_actual", .none), ("_name", .none),
        ("_subject_factory", factory), ("_data", data)] ∧
      ∀ m ∈ shape.eligibleMethods, m.name ∉ Engine.wrapperAttributes → after.GivesOverride id info.name shape m

namespace World

section

variable {w : World} {depth : Nat} {subject : ClassName} {shape : SubjectShape} {isEnum : Bool} {info : ClassInfo}
  {store later : Store} (wrappable : w.IsWrappable depth subject)
  (described : w.describe (.class subject isEnum) = .ok shape) (wraps : info.Wraps w subject shape store)
  (names : info.members.map (·.1) = "__module__" :: "__init__" :: shape.eligibleMethods.map (·.name))

include wraps in
private theorem wrapper_name : info.name = subject.wrapper := by
  rw [wraps.isChild]
  rfl

include wrappable wraps in
/-- A name is looked up on the wrapper class among its own members first, and then on the subject class. -/
private theorem lookup_wrapper (member : String) : (w.withClass info).lookup info.name member =
    ((info.member? member).map (info.name, ·)).or (w.lookup subject member) := by
  have looked := lookup_child wrappable.outside info.members member
  rw [← wraps.isChild] at looked
  rw [wrapper_name wraps]
  exact looked

include wrappable wraps in
private theorem wrapper_differs : info.name ≠ subject := by
  rw [wrapper_name wraps]
  intro same
  have below := wrappable.declared.isSubclass_self subject
  rw [isSubclass, List.contains_iff_mem] at below
  exact wrappable.outside (by rwa [same])

include described in
private theorem eligible_ordinary : ∀ m ∈ shape.eligibleMethods, ¬ Special m.name := by
  intro m eligible
  obtain ⟨among, _⟩ := SubjectShape.mem_eligibleMethods.1 eligible
  obtain ⟨found, inside, shaped⟩ := mem_right_of_forall₂ (describe_methods described) among
  rw [(methodShape_ok shaped).1]
  exact ((mem_methods_iff w subject found).1 inside).2.2.2.1

include names in
/-- Under any other name the wrapper class has no member of its own. -/
private theorem member?_none {name : String} (special : name ∉ ["__module__", "__init__"])
    (other : name ∉ shape.eligibleMethods.map (·.name)) : info.member? name = none := by
  refine List.lookup_eq_none_iff.2 fun entry among => ?_
  have inside : entry.1 ∈ info.members.map (·.1) := List.mem_map_of_mem among
  rw [names] at inside
  rw [bne_iff_ne]
  rintro rfl
  simp only [List.mem_cons, List.not_mem_nil, or_false] at inside special
  rcases inside with isModule | isConstructor | isOverride
  · exact special (.inl isModule)
  · exact special (.inr isConstructor)
  · exact other isOverride

include wrappable described wraps names in
/-- Under a special name but that of the constructor the wrapper class gives what the subject class gives. -/
private theorem lookup_special {name : String} (special : Special name) (other : name ∉ ["__module__", "__init__"]) :
    (w.withClass info).lookup info.name name = w.lookup subject name := by
  have none : info.member? name = none := by
    refine member?_none names other fun among => ?_
    obtain ⟨m, eligible, rfl⟩ := List.mem_map.1 among
    exact eligible_ordinary described m eligible special
  rw [lookup_wrapper wrappable wraps, none, Option.map_none, Option.none_or]

include wraps in
private theorem wrapper_module {module : String} (noPoint : '.' ∉ module.toList) : info.name.module ≠ module := by
  rw [wrapper_name wraps]
  rintro rfl
  exact noPoint (by simp [ClassName.wrapper])

include wrappable described wraps names in
/-- The search for attributes goes on as on objects of the subject class. -/
private theorem wrapper_searchesPlainly (plainly : SearchesPlainly w subject) :
    SearchesPlainly (w.withClass info) info.name := by
  refine ⟨fun same => wrapper_module wraps (by decide) (congrArg ClassName.module same), fun definer member found => ?_⟩
  rw [lookup_special wrappable described wraps names (by unfold Special; decide) (by decide)] at found
  exact plainly.2 definer member found

include wrappable described wraps names in
/-- An object of the wrapper class gives the override of an eligible method, unless it has an attribute of the name. -/
private theorem gives_override (plainly : SearchesPlainly w subject) (world : store.world = w.withClass info)
    (follows : later.Follows store) {m : MethodShape} (eligible : m ∈ shape.eligibleMethods) {id : Nat}
    (own : (later.attributesOf id).lookup m.name = none) : later.GivesOverride id info.name shape m := by
  obtain ⟨f, defines⟩ := (wraps.functions m.name).2 (.inr ⟨m, eligible, rfl⟩)
  obtain ⟨o, overridden, frame, defaults, body, count, rfl⟩ := wraps.overrides m eligible f defines
  obtain ⟨place, member, kept⟩ := defines
  have isWorld : later.world = w.withClass info := follows.world.trans world
  refine ⟨o, frame, defaults, place, overridden, body, count, follows.functions _ _ kept, ?_⟩
  have found : later.world.lookup info.name m.name =
      some (info.name, .value (.reference place Value.functionClass)) := by
    rw [isWorld, lookup_wrapper wrappable wraps, member]
    rfl
  refine Engine.getAttribute_function ?_ found rfl own
  rw [isWorld]
  exact wrapper_searchesPlainly wrappable described wraps names plainly

include wrappable wraps names in
/-- A method that is not eligible is one of the wrapper class just as it is one of the subject class. -/
private theorem methods_wrapper {found : FoundMethod} (among : found ∈ methods w subject)
    (other : found.name ∉ shape.eligibleMethods.map (·.name)) :
    (w.withClass info).lookup info.name found.name = w.lookup subject found.name ∧
      found ∈ methods (w.withClass info) info.name ∧ found ∈ methods (w.withClass info) subject := by
  obtain ⟨looked, notObject, notSubject, ordinary, notProperty⟩ := (mem_methods_iff w subject found).1 among
  have none : info.member? found.name = none := by
    refine member?_none names ?_ other
    have special : ∀ name ∈ ["__module__", "__init__"], Special name := by
      unfold Special
      decide
    exact fun isSpecial => ordinary (special _ isSpecial)
  have same : (w.withClass info).lookup info.name found.name = w.lookup subject found.name := by
    rw [lookup_wrapper wrappable wraps, none, Option.map_none, Option.none_or]
  have outside : info.name ∉ w.orderOf subject := by
    rw [wrapper_name wraps]
    exact wrappable.outside
  have above := lookup_above (wrapper_differs wrappable wraps) outside found.name
  refine ⟨same, (mem_methods_iff _ _ found).2 ⟨same.trans looked, notObject, notSubject, ordinary, notProperty⟩,
    (mem_methods_iff _ _ found).2 ⟨above.trans looked, notObject, notSubject, ordinary, notProperty⟩⟩

include wrappable described wraps names in
private theorem wrapper_inherits (plainly : SearchesPlainly w subject) (world : store.world = w.withClass info)
    (follows : later.Follows store) : info.Inherits w subject shape later := by
  have isWorld : later.world = w.withClass info := follows.world.trans world
  have ordinary : info.kind = .ordinary := by
    rw [wraps.isChild]
    rfl
  constructor
  case overrides =>
    exact fun m eligible id own => gives_override wrappable described wraps names plainly world follows eligible own
  case others =>
    intro found among other
    obtain ⟨same, onWrapper, onSubject⟩ := methods_wrapper wrappable wraps names among other
    rw [← isWorld] at same onWrapper onSubject
    have noMember : (later.world.class? info.name).bind (memberOf? · found.name) = none := by
      rw [isWorld, class?_withClass_self, Option.bind_some, memberOf?, ordinary]
    have noMember' : (later.world.class? subject).bind (memberOf? · found.name) = none := by
      rw [isWorld, class?_withClass_ne w (wrapper_differs wrappable wraps)]
      exact memberOf?_of_isExtensible wrappable.base.extensible found.name
    have isValue : info.value = .ofClass info.name := by
      rw [ClassInfo.value, ordinary]
      rfl
    obtain ⟨isEnum, isSubject⟩ := classValue_eq w subject
    refine ⟨same, ?_, ?_⟩
    · rw [isValue]
      exact Engine.classAttribute_method noMember onWrapper
    · rw [isSubject]
      exact Engine.classAttribute_method noMember' onSubject

/-! ### Making objects -/

include wrappable wraps in
private theorem class?_above {above : ClassName} (inside : above ∈ w.orderOf subject) :
    info.name ≠ above ∧ (w.withClass info).class? above = w.class? above := by
  have differs : info.name ≠ above := by
    rintro rfl
    rw [wrapper_name wraps] at inside
    exact wrappable.outside inside
  exact ⟨differs, class?_withClass_ne w differs⟩

include wraps in
private theorem orderOf_wrapper : (w.withClass info).orderOf info.name = info.name :: w.orderOf subject := by
  rw [orderOf, class?_withClass_self]
  dsimp only
  rw [wraps.isChild]
  rfl

include wraps in
private theorem kindOf?_wrapper : (w.withClass info).kindOf? info.name = some .ordinary := by
  rw [kindOf?, class?_withClass_self, wraps.isChild]
  rfl

include wrappable described wraps names in
private theorem wrapper_setsPlainly {name : String} (ordinary : name ∉ ["__module__", "__init__"])
    (plainly : SetsPlainly w subject name) : SetsPlainly (w.withClass info) info.name name := by
  constructor
  case hook =>
    intro definer member found
    rw [lookup_special wrappable described wraps names (by unfold Special; decide) (by decide)] at found
    exact plainly.hook definer member found
  case noProperty =>
    intro definer member f found
    rw [lookup_wrapper wrappable wraps] at found
    by_cases overridden : name ∈ shape.eligibleMethods.map (·.name)
    · obtain ⟨m, eligible, rfl⟩ := List.mem_map.1 overridden
      obtain ⟨_, _, own, _⟩ := (wraps.functions m.name).2 (.inr ⟨m, eligible, rfl⟩)
      rw [own] at found
      cases found
      exact fun same => by cases same
    · rw [member?_none names ordinary overridden, Option.map_none, Option.none_or] at found
      exact plainly.noProperty definer member f found
  case noField =>
    have noField := plainly.noField
    rw [Engine.hasRecordField, List.any_eq_false] at noField ⊢
    rw [orderOf_wrapper wraps, List.forall_mem_cons]
    refine ⟨by rw [kindOf?_wrapper wraps]; simp, fun above inside => ?_⟩
    rw [kindOf?, (class?_above wrappable wraps inside).2]
    exact noField above inside

include wrappable wraps in
/-- The wrapper class leaves nothing to classes below it that the subject class does not leave to them. -/
private theorem wrapper_concrete (concrete : w.isAbstract subject = false) :
    (w.withClass info).isAbstract info.name = false := by
  rw [isAbstract, List.any_eq_false] at concrete ⊢
  rw [orderOf_wrapper wraps, List.forall_mem_cons]
  constructor
  · rw [class?_withClass_self, wraps.isChild]
    simp [childOf]
  · intro above inside
    obtain ⟨differs, same⟩ := class?_above wrappable wraps inside
    have leaves := concrete above inside
    rw [List.any_eq_true, not_exists] at leaves
    rw [same, List.any_eq_true]
    rintro ⟨missing, among, given⟩
    rw [lookup_wrapper wrappable wraps] at given
    cases own : info.member? missing with
    | some member =>
      rw [own] at given
      exact differs (eq_of_beq given)
    | none =>
      rw [own, Option.map_none, Option.none_or] at given
      exact leaves missing ⟨among, given⟩

include wrappable described wraps names in
private theorem wrapper_makesPlainly (setsUp : w.SetsUpSubjects subject) :
    MakesPlainly (w.withClass info) info.name := by
  have ending (other : ClassName) (differs : other.path.toList.getLast? ≠ some 'r') : (info.name == other) = false := by
    rw [beq_eq_false_iff_ne, wrapper_name wraps]
    rintro rfl
    refine differs ?_
    simp [ClassName.wrapper, wrapperEnding, List.getLast?_append]
  constructor
  case made =>
    intro definer member found
    rw [lookup_special wrappable described wraps names (by unfold Special; decide) (by decide)] at found
    exact setsUp.made definer member found
  case ordinary => exact kindOf?_wrapper wraps
  case foreign => exact wrapper_module wraps (by decide)
  case noError =>
    have noError := setsUp.noError
    rw [isSubclass] at noError ⊢
    rw [orderOf_wrapper wraps, List.contains_cons, noError, Bool.or_false, beq_eq_false_iff_ne]
    exact fun same => wrapper_module wraps (by decide) (congrArg ClassName.module same.symm)
  case transparent =>
    have transparent := setsUp.transparent
    rw [Engine.isOpaque] at transparent ⊢
    rw [orderOf_wrapper wraps, List.any_cons, transparent, Bool.or_false]
    simp [wrapper_module wraps (show '.' ∉ ClassName.builtinModule.toList by decide),
      wrapper_module wraps (show '.' ∉ "collections".toList by decide),
      wrapper_module wraps (show '.' ∉ "re".toList by decide)]
  case concrete =>
    rw [Engine.isObjectless, wrapper_concrete wrappable wraps setsUp.concrete, ending _ (by decide),
      ending _ (by decide), ending _ (by decide)]
    rfl

include wrappable described wraps names in
/-- Calling the wrapper class makes an object with just the attributes of the constructors. -/
private theorem wrapper_makes (setsUp : w.SetsUpSubjects subject) (world : later.world = w.withClass info)
    (unchanged : later.revised = []) {f : Function} (defines : info.Defines later "__init__" f)
    (isConstructor : f.IsWrapperConstructor info.name) (reporter factory data : Value) :
    (engine.call info.value { positional := [reporter, factory, data] }).Ends later fun object after =>
      ∃ id, object = .reference id info.name ∧ later.Grows [] after ∧
        after.attributesOf id = [("failure_strategy", reporter), ("_actual", .none), ("_name", .none),
          ("_subject_factory", factory), ("_data", data)] := by
  obtain ⟨before, after, order, passes⟩ := setsUp.setsUp
  have isSubject : later.world.class? subjectClass = some Library.subject := by
    have inside : subjectClass ∈ w.orderOf subject := by
      rw [order]
      simp
    rw [world, (class?_above wrappable wraps inside).2]
    exact wrappable.declared.class?_library rfl
  have isOrder : later.world.orderOf info.name = info.name :: (before ++ subjectClass :: after) := by
    rw [world, orderOf_wrapper wraps, order]
  have passesLater : ∀ owner ∈ before, later.world.setsUp owner = false := by
    intro owner inside
    have above : owner ∈ w.orderOf subject := by
      rw [order]
      exact List.mem_append_left _ inside
    rw [World.setsUp, world, (class?_above wrappable wraps above).2]
    exact passes owner inside
  have plainly : ∀ name ∈ Engine.wrapperAttributes, SetsPlainly later.world info.name name := by
    intro name among
    rw [world]
    refine wrapper_setsPlainly wrappable described wraps names ?_ (setsUp.sets name among)
    exact (by decide : ∀ name ∈ Engine.wrapperAttributes, name ∉ ["__module__", "__init__"]) name among
  have isValue : info.value = .class info.name false := by
    rw [ClassInfo.value, wraps.isChild]
    rfl
  obtain ⟨place, member, kept⟩ := defines
  let held : List (String × Value) := [("failure_strategy", reporter), ("_actual", .none), ("_name", .none),
    ("_subject_factory", factory), ("_data", data)]
  have makes : MakesPlainly later.world info.name := by
    rw [world]
    exact wrapper_makesPlainly wrappable described wraps names setsUp
  rw [isValue, Engine.call]
  have constructed : (engine.instantiate info.name { positional := [reporter, factory, data] }).Ends later
      fun object after => ∃ id, object = .reference id info.name ∧ later.Grows [] after ∧
        after.entities[id]? = some (.object held) := by
    refine Engine.instantiate_ends engine makes unchanged fun id made fresh isObject grows => ?_
    have known : Run.world.start made = (.ok made.world, made) := rfl
    rw [isOrder, Engine.construct]
    refine .step known ?_
    rw [grows.world, world, class?_withClass_self]
    dsimp only
    rw [member]
    refine (Engine.runConstructor_wrapper itemLimit 898 (grows.kept _ List.not_mem_nil _ kept) isConstructor.plain
      isConstructor.body isConstructor.parameters (grows.world ▸ isOrder) (grows.world ▸ passesLater)
      (grows.world ▸ isSubject) (grows.world ▸ plainly) isObject reporter factory data).imp ?_
    rintro _ last ⟨further, isHeld⟩
    refine ⟨⟨further.world.trans grows.world, further.revised.trans grows.revised, fun other _ entity found => ?_⟩,
      isHeld⟩
    refine further.kept other ?_ entity (grows.kept other List.not_mem_nil entity found)
    rw [List.mem_singleton]
    rintro rfl
    cases fresh.symm.trans found
  refine constructed.imp ?_
  rintro object last ⟨id, isNew, grows, isHeld⟩
  refine ⟨id, isNew, grows, ?_⟩
  rw [Store.attributesOf, isHeld]

include wrappable described wraps names in
private theorem wrapper_constructs (plainly : SearchesPlainly w subject) (setsUp : w.SetsUpSubjects subject)
    (world : store.world = w.withClass info) (follows : later.Follows store) (unchanged : later.revised = [])
    {f : Function} (defines : info.Defines store "__init__" f) (isConstructor : f.IsWrapperConstructor info.name) :
    info.Constructs shape later := by
  intro reporter factory data
  obtain ⟨place, member, kept⟩ := defines
  refine (wrapper_makes wrappable described wraps names setsUp (follows.world.trans world) unchanged
    ⟨place, member, follows.functions _ _ kept⟩ isConstructor reporter factory data).imp ?_
  rintro object after ⟨id, isNew, grows, held⟩
  refine ⟨id, isNew, grows.follows, held, fun m eligible other => ?_⟩
  refine gives_override wrappable described wraps names plainly world (grows.follows.trans follows) eligible ?_
  rw [held, List.lookup_eq_none_iff]
  intro entry among
  have inside : entry.1 ∈ Engine.wrapperAttributes := List.mem_map_of_mem among
  rw [bne_iff_ne]
  exact fun same => other (same ▸ inside)

end

/-- The wrapper that is built of a class which can be wrapped loads, and from then on its objects give the override of
    each eligible method bound to themselves, unless they keep an attribute of its name. All other methods are those of
    the subject class. Where the base class of subjects sets up the objects, the wrapper class can be called, and its
    new objects keep only the attributes that the two constructors set. -/
theorem build_inherits {w : World} {depth : Nat} {subject : ClassName} (nested : 0 < depth)
    (room : depth + 3 ≤ bracketLimit) (wrappable : w.IsWrappable depth subject) (plainly : SearchesPlainly w subject)
    {isEnum : Bool} {source : WrapperSource} (built : w.build (.class subject isEnum) = .ok source) {store : Store}
    (isWorld : store.world = w) (unchanged : store.revised = []) :
    ∃ shape, w.describe (.class subject isEnum) = .ok shape ∧ source.load.Ends store fun value last =>
      ∃ info : ClassInfo, value = info.value ∧ last.revised = [] ∧ ∀ later : Store, later.Follows last →
        info.Inherits w subject shape later ∧
        (w.SetsUpSubjects subject → later.revised = [] → info.Constructs shape later) := by
  obtain ⟨shape, described, emitted⟩ := build_eq_ok built
  refine ⟨shape, described, (emit_loads nested room wrappable described emitted isWorld unchanged).imp ?_⟩
  rintro value last ⟨info, rfl, world, same, wraps, names, f, defines, isConstructor⟩
  refine ⟨info, rfl, same, fun later follows => ⟨?_, fun setsUp unchanged => ?_⟩⟩
  · exact wrapper_inherits wrappable described wraps names plainly world follows
  · exact wrapper_constructs wrappable described wraps names plainly setsUp world follows unchanged defines
      isConstructor

/-! ### An example -/

private theorem price_searchesPlainly : SearchesPlainly shopWorld priceClass.name := by
  obtain ⟨object, isObject, plain, _⟩ := Library.object_plain
  refine ⟨by decide, fun definer member found => ?_⟩
  rw [price_lookup (by decide +kernel) isObject] at found
  obtain ⟨member, own, same⟩ := Option.map_eq_some_iff.1 found
  cases same
  exact (plain _ _ own _).1

private theorem price_setsUp : shopWorld.SetsUpSubjects priceClass.name where
  made := by
    obtain ⟨object, isObject, own⟩ := Library.object_class
    intro definer member found
    rw [price_lookup (by decide +kernel) isObject, own] at found
    cases found
    exact ⟨_, rfl⟩
  setsUp := ⟨[priceClass.name], [genericClass, objectClass], by decide +kernel, by decide +kernel⟩
  sets := by
    obtain ⟨object, isObject, plain, _⟩ := Library.object_plain
    intro name among
    have passes : ∀ name ∈ Engine.wrapperAttributes, ∀ above ∈ [priceClass.name, subjectClass, genericClass],
        ((shopWorld.class? above).bind (·.member? name)).isNone = true := by decide +kernel
    have fresh : ∀ name ∈ Engine.wrapperAttributes,
        Engine.hasRecordField shopWorld priceClass.name name = false := by decide +kernel
    constructor
    case hook =>
      intro definer member found
      rw [price_lookup (by decide +kernel) isObject] at found
      obtain ⟨member, own, same⟩ := Option.map_eq_some_iff.1 found
      cases same
      exact (plain _ _ own _).1
    case noProperty =>
      intro definer member f found
      rw [price_lookup (passes name among) isObject] at found
      obtain ⟨member, own, same⟩ := Option.map_eq_some_iff.1 found
      cases same
      exact (plain _ _ own _).2 f
    case noField => exact fresh name among
  noError := by decide +kernel
  transparent := by decide +kernel
  concrete := by decide +kernel

/-- The wrapper of the example gives its methods, and can be called. -/
theorem price_inherits : 0 < 1 ∧ 1 + 3 ≤ bracketLimit ∧ shopWorld.IsWrappable 1 priceClass.name ∧
    SearchesPlainly shopWorld priceClass.name ∧ shopWorld.SetsUpSubjects priceClass.name ∧
    ∃ source, shopWorld.build (.class priceClass.name false) = .ok source ∧
      ∃ shape, shopWorld.describe (.class priceClass.name false) = .ok shape ∧
        source.load.Ends (Store.start shopWorld .raise Hint.firstPlace) fun value last =>
          ∃ info : ClassInfo, value = info.value ∧ last.revised = [] ∧ ∀ later : Store, later.Follows last →
            info.Inherits shopWorld priceClass.name shape later ∧
            (shopWorld.SetsUpSubjects priceClass.name → later.revised = [] → info.Constructs shape later) := by
  obtain ⟨source, built⟩ := price_built
  exact ⟨by decide, by decide, price_isWrappable, price_searchesPlainly, price_setsUp, source, built,
    build_inherits (by decide) (by decide) price_isWrappable price_searchesPlainly built rfl rfl⟩

end World

end EachSubject
