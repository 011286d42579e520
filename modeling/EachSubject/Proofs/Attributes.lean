import EachSubject.Execution
import EachSubject.Proofs.Run

/-!
# Methods found on objects

An object gives a method of its class bound to itself, unless it has an attribute of the name of its own.
Calling what it gives runs the function of the class with the object in front of the arguments. An attribute that is
set is kept by the object.
-/

namespace EachSubject

/-- The attributes that an object of the store keeps. -/
def Store.attributesOf (store : Store) (id : Nat) : List (String × Value) :=
  match store.entities[id]? with
  | some (.object attributes) => attributes
  | some (.function object) => object.attributes
  | _ => []

/-- The store in which an object keeps these attributes. -/
def Store.withHeld (store : Store) (id : Nat) (held : List (String × Value)) : Store :=
  { store with entities := store.entities.setIfInBounds id (.object held) }

/-- The search for attributes of objects of the class is that of the language. -/
def SearchesPlainly (w : World) (owner : ClassName) : Prop :=
  owner ≠ Value.functionClass ∧
  ∀ definer member, w.lookup owner "__getattribute__" = some (definer, member) →
    Engine.isFunction (Engine.rawMember definer "__getattribute__" member) = false

/-- Objects of the class have the function as a method of the name, from the class that gives it. -/
def HasMethod (w : World) (owner : ClassName) (name : String) (definer : ClassName) (f : Function) : Prop :=
  ∃ isFinal, w.lookup owner name = some (definer, .function .onObject isFinal f)

/-- Setting the attribute of an object of the class just keeps it. -/
structure SetsPlainly (w : World) (owner : ClassName) (name : String) : Prop where
  hook : ∀ definer member, w.lookup owner "__setattr__" = some (definer, member) →
    Engine.isFunction (Engine.rawMember definer "__setattr__" member) = false
  noProperty : ∀ definer member f, w.lookup owner name = some (definer, member) →
    Engine.rawMember definer name member ≠ .wrapping .property f
  noField : Engine.hasRecordField w owner name = false

namespace World

variable {w : World} {name : String}

/-- A member that is found in a list of classes is one of the class that gives it. -/
theorem member?_of_lookupIn {classes : List ClassName} {definer : ClassName} {member : Member}
    (found : w.lookupIn name classes = some (definer, member)) :
    definer ∈ classes ∧ (w.class? definer).bind (·.member? name) = some member := by
  induction classes with
  | nil => cases found
  | cons owner rest ih =>
    rw [lookupIn] at found
    cases own : (w.class? owner).bind (·.member? name) with
    | some given =>
      rw [own] at found
      cases found
      exact ⟨List.mem_cons_self, own⟩
    | none =>
      rw [own] at found
      exact (ih found).imp_left (List.mem_cons_of_mem _)

/-- A class without a member of the name passes the search on. -/
theorem lookupIn_cons_of_none {owner : ClassName} {rest : List ClassName}
    (missing : (w.class? owner).bind (·.member? name) = none) :
    w.lookupIn name (owner :: rest) = w.lookupIn name rest := by
  rw [lookupIn, missing]

theorem lookupIn_cons_of_some {owner : ClassName} {rest : List ClassName} {member : Member}
    (own : (w.class? owner).bind (·.member? name) = some member) :
    w.lookupIn name (owner :: rest) = some (owner, member) := by
  rw [lookupIn, own]

end World

namespace Engine

variable {e : Engine} {store : Store} {id : Nat} {owner definer : ClassName} {name : String} {f : Function}

theorem member?_start (owner : ClassName) (name : String) (store : Store) :
    (member? owner name).start store = (.ok ((store.world.lookup owner name).map fun found =>
      (found.1, rawMember found.1 name found.2)), store) := rfl

theorem attributes_start (id : Nat) (store : Store) :
    (Run.attributes id).start store = (.ok (store.attributesOf id), store) := by
  have found : (Run.entity? id).start store = (.ok store.entities[id]?, store) := rfl
  rw [Run.attributes, Run.bind_ok found, Store.attributesOf]
  cases store.entities[id]? with
  | none => rfl
  | some entity => cases entity <;> rfl

/-- What an object's class has under a name is nothing to call if it is no function. -/
theorem hook?_none (noFunction : ∀ definer member, store.world.lookup owner name = some (definer, member) →
    isFunction (rawMember definer name member) = false) :
    (hook? (.reference id owner) name).start store = (.ok none, store) := by
  rw [hook?, Run.bind_ok (member?_start owner name store)]
  cases found : store.world.lookup owner name with
  | none => rfl
  | some pair =>
    obtain ⟨above, member⟩ := pair
    dsimp only [Option.map_some]
    rw [noFunction above member found]
    rfl

private theorem orMissing_ok {value result : Value} {search : Run Value} {last : Store}
    (found : search.start store = (.ok result, last)) :
    (e.orMissing value name search).start store = (.ok result, last) := by
  unfold orMissing
  exact Run.tryCatch_ok found

/-- A function of a class leaves the decision to the objects, and becomes bound to them. -/
private theorem boundTo_function (e : Engine) (object : Value) (owner : ClassName) (name : String) {function : Value}
    (isFunction : isFunction function = true) :
    decidesFirst function = false ∧ e.boundTo object owner name function = pure (.bound object function) := by
  rw [Engine.isFunction.eq_def] at isFunction
  split at isFunction
  · exact ⟨rfl, rfl⟩
  · refine ⟨rfl, ?_⟩
    simp only [boundTo, Engine.isFunction, isFunction, if_true]
  · cases isFunction

/-- An object gives a function that its class has under the name, bound to itself. -/
theorem getAttribute_function {member : Member} (plainly : SearchesPlainly store.world owner)
    (found : store.world.lookup owner name = some (definer, member))
    (isFunction : isFunction (rawMember definer name member) = true)
    (own : (store.attributesOf id).lookup name = none) :
    (e.getAttribute (.reference id owner) name).start store =
      (.ok (.bound (.reference id owner) (rawMember definer name member)), store) := by
  obtain ⟨later, bound⟩ := boundTo_function e (.reference id owner) owner name isFunction
  have search : (e.plainAttribute (.reference id owner) name).start store =
      (.ok (.bound (.reference id owner) (rawMember definer name member)), store) := by
    have found : (member? owner name).start store =
        (.ok (some (definer, rawMember definer name member)), store) := by
      rw [member?_start, found]
      rfl
    have known : Run.world.start store = (.ok store.world, store) := rfl
    have attributes : (ownAttributes (.reference id owner)).start store = (.ok (store.attributesOf id), store) :=
      attributes_start id store
    rw [plainAttribute, Run.bind_ok known]
    dsimp only
    rw [show store.world.classOf (.reference id owner) = owner from rfl, Run.bind_ok found]
    dsimp only
    rw [later]
    simp only [Bool.false_eq_true, if_false]
    rw [Run.bind_ok attributes, own, bound]
    rfl
  rw [getAttribute, if_neg plainly.1, Run.bind_ok (hook?_none plainly.2)]
  exact orMissing_ok search

/-- An object gives a method of its class, bound to itself. -/
theorem getAttribute_method (plainly : SearchesPlainly store.world owner)
    (method : HasMethod store.world owner name definer f)
    (own : (store.attributesOf id).lookup name = none) :
    (e.getAttribute (.reference id owner) name).start store =
      (.ok (.bound (.reference id owner) (.function definer name)), store) := by
  obtain ⟨isFinal, found⟩ := method
  exact getAttribute_function plainly found rfl own

/-- An object gives an attribute of its own that its class has nothing under the name of. -/
theorem getAttribute_own {value : Value} (plainly : SearchesPlainly store.world owner)
    (noMember : store.world.lookup owner name = none) (own : (store.attributesOf id).lookup name = some value) :
    (e.getAttribute (.reference id owner) name).start store = (.ok value, store) := by
  have search : (e.plainAttribute (.reference id owner) name).start store = (.ok value, store) := by
    have nothing : (member? owner name).start store = (.ok none, store) := by
      rw [member?_start, noMember]
      rfl
    have known : Run.world.start store = (.ok store.world, store) := rfl
    have attributes : (ownAttributes (.reference id owner)).start store = (.ok (store.attributesOf id), store) :=
      attributes_start id store
    rw [plainAttribute, Run.bind_ok known]
    dsimp only
    rw [show store.world.classOf (.reference id owner) = owner from rfl, Run.bind_ok nothing]
    dsimp only
    rw [Run.bind_ok attributes, own]
    rfl
  rw [getAttribute, if_neg plainly.1, Run.bind_ok (hook?_none plainly.2)]
  exact orMissing_ok search

/-- An object keeps the attribute that is set, in place of one that it had under the name. -/
theorem setAttribute_start {held : List (String × Value)} (plainly : SetsPlainly store.world owner name)
    (isObject : store.entities[id]? = some (.object held)) (value : Value) :
    (e.setAttribute (.reference id owner) name value).start store =
      (.ok (), store.withHeld id (Run.bindName held name value)) := by
  have kept : (Run.keepAttribute id name value).start store =
      (.ok (), store.withHeld id (Run.bindName held name value)) := by
    have attributes := attributes_start id store
    have asked : (Run.entity? id).start store = (.ok store.entities[id]?, store) := rfl
    rw [Store.attributesOf, isObject] at attributes
    rw [isObject] at asked
    rw [Run.keepAttribute, Run.bind_ok attributes, Run.setAttributes, Run.bind_ok asked]
    rfl
  have known : Run.world.start store = (.ok store.world, store) := rfl
  rw [setAttribute, Run.bind_ok (hook?_none plainly.hook)]
  · dsimp only
    rw [setPlainAttribute, Run.bind_ok (member?_start owner name store)]
    split
    · rename_i f isProperty
      obtain ⟨⟨definer, member⟩, found, same⟩ := Option.map_eq_some_iff.1 isProperty
      exact absurd (congrArg Prod.snd same) (plainly.noProperty definer member f found)
    · rw [Run.bind_ok known, plainly.noField]
      exact kept
  · intro _ _ impossible
    cases impossible

/-- Calling a bound method runs its function with the object in front. -/
theorem call_bound (method : HasMethod store.world owner name definer f) (object : Value) (call : Call) :
    (e.call (.bound object (.function definer name)) call).start store =
      (e.run f (withReceiver object call)).start store := by
  obtain ⟨isFinal, found⟩ := method
  obtain ⟨_, own⟩ := World.member?_of_lookupIn found
  have known : (functionOf? (.function definer name)).start store = (.ok (some f), store) := by
    have known : Run.world.start store = (.ok store.world, store) := rfl
    rw [functionOf?, Run.bind_ok known, own]
    rfl
  rw [Engine.call, callFunction, Run.bind_ok known]

/-- Calling a method of an object runs the function of its class. -/
theorem callMethod_method (plainly : SearchesPlainly store.world owner)
    (method : HasMethod store.world owner name definer f) (own : (store.attributesOf id).lookup name = none)
    (call : Call) : (e.callMethod (.reference id owner) name call).start store =
      (e.run f (withReceiver (.reference id owner) call)).start store := by
  rw [callMethod, Run.bind_ok (getAttribute_method plainly method own), call_bound method]

end Engine

end EachSubject
