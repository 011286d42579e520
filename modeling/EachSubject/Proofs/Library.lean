import EachSubject.Execution
import EachSubject.Proofs.Attributes
import Mathlib.Data.List.Basic

/-!
# The class of sets

Where no class of the world takes the name of one of the language, calling the class of sets without arguments gives
an empty set: neither that class nor the root of all classes has a function of its own for making objects.
-/

namespace EachSubject

namespace Library

/-! ## Words -/

/-- The words of a text as characters. -/
def spelledWords (chars : List Char) : List (List Char) :=
  (Text.splitAtChar ' ' (chars.map fun c => if c = '\n' then ' ' else c)).filter (!·.isEmpty)

private theorem words_eq {text : String} {chars : List Char} (spelled : text.toList = chars) :
    words text = (spelledWords chars).map String.ofList := by
  have nonempty : (fun word : String => !word.isEmpty) ∘ String.ofList = fun word : List Char => !word.isEmpty := by
    funext word
    cases word <;> simp
  rw [words, spelled, spelledWords, List.filter_map, nonempty]

/-- A long text is spelled out once, and the words are then compared as characters. -/
theorem mem_words {text word : String} {chars : List Char} (spelled : text.toList = chars) :
    word ∈ words text ↔ word.toList ∈ spelledWords chars := by
  rw [words_eq spelled, List.mem_map]
  constructor
  · rintro ⟨_, among, rfl⟩
    rwa [String.toList_ofList]
  · exact fun among => ⟨_, among, String.ofList_toList⟩

/-! ## Members -/

/-- The functions that the class has for its values, or for itself, do not go by the name. -/
private theorem lookup_map_none {α : Type} {name : String} {names : List String} {make : String → α}
    (absent : name ∉ names) : (names.map fun name => (name, make name)).lookup name = none := by
  rw [List.lookup_eq_none_iff]
  intro entry among
  obtain ⟨other, inside, rfl⟩ := List.mem_map.1 among
  rw [bne_iff_ne]
  rintro rfl
  exact absent inside

/-- Where the words of a class's functions and fields do not hold the name of the function that makes objects, the
    class has such a function just if it is the root of all classes. -/
private theorem builtinMembers_new {path : String} (plain : "__new__" ∉ words ((valueFunctions.lookup path).getD ""))
    (iterates : "__new__" ∉ words iteratorFunctions)
    (onClass : "__new__" ∉ words ((classFunctions.lookup path).getD ""))
    (fields : "__new__" ∉ words ((valueFields.lookup path).getD "")) :
    (builtinMembers path).lookup "__new__" = if path = "object" then some (.value (.builtin "__new__")) else none := by
  have functions : "__new__" ∉ if iteratorNames.contains path then words iteratorFunctions
      else words ((valueFunctions.lookup path).getD "") := by
    split
    · exact iterates
    · exact plain
  have unhashable : (if unhashableClasses.contains path then [("__hash__", Member.value .none)] else []).lookup
      "__new__" = none := by
    split <;> rfl
  rw [builtinMembers]
  dsimp only
  rw [List.lookup_append, List.lookup_append, List.lookup_append, List.lookup_append, lookup_map_none functions,
    lookup_map_none onClass, lookup_map_none fields, unhashable]
  split <;> rfl

set_option maxRecDepth 4096 in
/-- Neither sets nor objects have a function of that name, apart from the one of the root, and iterators have none. -/
private theorem words_new : "__new__" ∉ words "" ∧ "__new__" ∉ words iteratorFunctions ∧
    (∀ path ∈ ["set", "object"], "__new__" ∉ words ((valueFunctions.lookup path).getD "")) ∧
    ∀ path ∈ ["set", "object"], "__new__" ∉ words ((classFunctions.lookup path).getD "") := by
  simp only [List.mem_cons, List.not_mem_nil, or_false, forall_eq_or_imp, forall_eq]
  refine ⟨?_, ?_, ⟨?_, ?_⟩, ?_, ?_⟩
  all_goals exact (mem_words String.toList_ofList).not.2 (by decide)

/-- No member of a class of the language becomes bound to its objects, and none is a property. -/
private theorem builtinMembers_plain {path name : String} {member : Member}
    (found : (builtinMembers path).lookup name = some member) (owner : ClassName) :
    Engine.isFunction (Engine.rawMember owner name member) = false ∧
      ∀ f, Engine.rawMember owner name member ≠ .wrapping .property f := by
  obtain ⟨before, after, split, _⟩ := List.lookup_eq_some_iff.1 found
  have among : (name, member) ∈ builtinMembers path := by
    rw [split]
    simp
  rw [builtinMembers] at among
  simp only [List.mem_append, List.mem_map] at among
  rcases among with (((⟨_, _, same⟩ | ⟨_, _, same⟩) | ⟨_, _, same⟩) | isNew) | isHash
  · cases same
    exact ⟨rfl, fun f same => by cases same⟩
  · cases same
    exact ⟨rfl, fun f same => by cases same⟩
  · cases same
    exact ⟨rfl, fun f same => by cases same⟩
  · split at isNew
    · cases List.mem_singleton.1 isNew
      exact ⟨rfl, fun f same => by cases same⟩
    · cases isNew
  · split at isHash
    · cases List.mem_singleton.1 isHash
      exact ⟨rfl, fun f same => by cases same⟩
    · cases isHash

/-- A class has the functions that it has for itself, unless its values have one of the name. -/
private theorem lookup_map_some {α : Type} {name : String} {names : List String} (make : String → α)
    (among : name ∈ names) : (names.map fun name => (name, make name)).lookup name = some (make name) := by
  induction names with
  | nil => cases among
  | cons first rest ih =>
    rw [List.map_cons, List.lookup_cons]
    by_cases same : name = first
    · rw [same, beq_self_eq_true]
    · rw [beq_false_of_ne same]
      exact ih ((List.mem_cons.1 among).resolve_left same)

set_option maxRecDepth 4096 in
/-- The root of all classes keeps the function that takes notice of new classes for itself. -/
private theorem object_noticing : (builtinMembers "object").lookup "__init_subclass__" =
    some (.value (.wrapping .onClass (.descriptor (.builtin "object") "__init_subclass__"))) := by
  have iterates : "__init_subclass__" ∉ words iteratorFunctions :=
    (mem_words String.toList_ofList).not.2 (by decide)
  have plain : "__init_subclass__" ∉ words ((valueFunctions.lookup "object").getD "") :=
    (mem_words String.toList_ofList).not.2 (by decide)
  have onClass : "__init_subclass__" ∈ words ((classFunctions.lookup "object").getD "") :=
    (mem_words String.toList_ofList).2 (by decide)
  have functions : "__init_subclass__" ∉ if iteratorNames.contains "object" then words iteratorFunctions
      else words ((valueFunctions.lookup "object").getD "") := by
    split
    · exact iterates
    · exact plain
  rw [builtinMembers]
  dsimp only
  rw [List.lookup_append, List.lookup_append, List.lookup_append, List.lookup_append, lookup_map_none functions,
    lookup_map_some _ onClass]
  rfl

private theorem set_members : (builtinMembers "set").lookup "__new__" = none :=
  let ⟨empty, iterates, ofValues, ofClass⟩ := words_new
  builtinMembers_new (ofValues "set" (by decide)) iterates (ofClass "set" (by decide)) empty

private theorem object_members : (builtinMembers "object").lookup "__new__" = some (.value (.builtin "__new__")) :=
  let ⟨empty, iterates, ofValues, ofClass⟩ := words_new
  builtinMembers_new (ofValues "object" (by decide)) iterates (ofClass "object" (by decide)) empty

/-! ## Classes -/

private theorem class?_builtin {path : String} (known : isBuiltin path = true) :
    class? (.builtin path) = some
      { name := .builtin path, bases := (parents path).map ClassName.builtin
        order := (pathsAbove path chainLength).map ClassName.builtin
        members := builtinMembers path } := by
  rw [class?, show (ClassName.builtin path).module = ClassName.builtinModule from rfl, if_pos rfl,
    show (ClassName.builtin path).path = path from rfl, builtinClass?, if_pos known]

set_option maxRecDepth 4096 in
private theorem set_isNamed : "set" ∈ namedClasses := (mem_words String.toList_ofList).2 (by decide)

private theorem set_parents : parents "set" = ["object"] := by
  have named : namedClasses.contains "set" = true := List.contains_iff_mem.2 set_isNamed
  rw [parents, if_neg (by decide), if_neg (by decide), named]
  rfl

private theorem set_isBuiltin : isBuiltin "set" = true := by
  rw [isBuiltin, set_parents]
  rfl

/-- A name without a constant of its own stands for the class that goes by it. -/
private theorem knownName?_of_builtinNamed? {name path : String} (noConstant : constantNames.lookup name = none)
    (named : builtinNamed? name = some path) : knownName? name = some (.ofClass (.builtin path)) := by
  rw [knownName?, noConstant]
  dsimp only
  rw [named]

set_option maxRecDepth 4096 in
/-- The class of sets has a name that is known everywhere. -/
theorem knownName?_set : knownName? "set" = some (.ofClass (.builtin "set")) := by
  have unlisted : "set" ∉ namelessClasses := by
    rw [namelessClasses, List.mem_append, mem_words String.toList_ofList, iteratorNames,
      mem_words String.toList_ofList]
    decide
  have notNameless : namelessClasses.contains "set" = false :=
    Bool.eq_false_iff.2 fun listed => unlisted (List.contains_iff_mem.1 listed)
  have named : builtinNamed? "set" = some "set" := by
    rw [builtinNamed?, show errorAliases.lookup "set" = none from rfl]
    dsimp only
    rw [notNameless, set_isBuiltin]
    rfl
  exact knownName?_of_builtinNamed? rfl named

/-- The class of sets leaves the making of its objects to the root of all classes. -/
private theorem set_class : ∃ c above, class? (.builtin "set") = some c ∧ c.kind = .ordinary ∧
    c.order = .builtin "set" :: objectClass :: above ∧ c.member? "__new__" = none := by
  have order : ∃ above, (pathsAbove "set" chainLength).map ClassName.builtin =
      .builtin "set" :: objectClass :: above := by
    rw [chainLength, pathsAbove, if_neg (by decide), set_parents, List.head?_cons, Option.map_some, Option.getD_some,
      pathsAbove, if_neg (by decide), List.map_cons, List.map_cons]
    exact ⟨_, rfl⟩
  obtain ⟨above, order⟩ := order
  exact ⟨_, above, class?_builtin set_isBuiltin, rfl, order, set_members⟩

/-- The root of all classes makes objects by a function of the language. -/
theorem object_class : ∃ c, class? objectClass = some c ∧
    c.member? "__new__" = some (.value (.builtin "__new__")) :=
  ⟨_, class?_builtin rfl, object_members⟩

/-- The members of the root of all classes are functions of the language: none becomes bound to objects, none is a
    property, and the one that takes notice of new classes is kept by the class for itself. -/
theorem object_plain : ∃ c, class? objectClass = some c ∧
    (∀ name member, c.member? name = some member → ∀ owner,
      Engine.isFunction (Engine.rawMember owner name member) = false ∧
        ∀ f, Engine.rawMember owner name member ≠ .wrapping .property f) ∧
    c.member? "__init_subclass__" =
      some (.value (.wrapping .onClass (.descriptor (.builtin "object") "__init_subclass__"))) := by
  refine ⟨_, class?_builtin rfl, ?_, object_noticing⟩
  intro name member found owner
  exact @builtinMembers_plain "object" name member found owner

end Library

/-- No class of the world goes by the name of one of the language. -/
def World.KeepsBuiltins (w : World) : Prop := ∀ c ∈ w.classes, c.name.module ≠ ClassName.builtinModule

theorem World.KeepsBuiltins.class? {w : World} (keeps : w.KeepsBuiltins) (path : String) :
    w.class? (.builtin path) = Library.class? (.builtin path) := by
  have absent : w.classes.find? (·.name == .builtin path) = none := by
    rw [List.find?_eq_none]
    intro c among same
    exact keeps c among (congrArg ClassName.module (LawfulBEq.eq_of_beq same))
  rw [World.class?, absent, Option.none_or]

namespace Engine

variable {e : Engine} {store : Store}

private theorem noItems_start (unchanged : store.revised = []) :
    (e.itemsForNewSet {}).start store = (.ok [], store) := by
  have bound : Call.bind? {} [maybePlace "iterable" (.tuple 0 [])] = some [("iterable", .one (.tuple 0 []))] := rfl
  have default := Run.current_start unchanged (.tuple 0 [])
  have source : (taken [maybePlace "iterable" (.tuple 0 [])] {}).start store = (.ok [.tuple 0 []], store) := by
    rw [taken, bound]
    change (do return [← Run.current (.tuple 0 [])] : Run (List Value)).start store = _
    rw [Run.bind_ok default]
    rfl
  have items : (e.items (.tuple 0 [])).start store = (.ok [], store) := by
    have data : (dataItems? (.tuple 0 [])).start store = (.ok (some []), store) := rfl
    have found : (e.itemsOf (.tuple 0 [])).start store = (.ok { found := [] }, store) := by
      change (do return { found := ← Run.orFault .mismatch (← dataItems? (← Run.current (.tuple 0 []))) } :
        Run Items).start store = _
      rw [Run.bind_ok default, Run.bind_ok data]
      rfl
    rw [items, Run.bind_ok found]
    rfl
  change (do setItems (← e.itemsOfCall {}) : Run (List Value)).start store = _
  have ofCall : (e.itemsOfCall {}).start store = (.ok [], store) := by
    rw [itemsOfCall, Run.bind_ok source]
    exact items
  rw [Run.bind_ok ofCall]
  rfl

/-- Calling the class of sets without arguments gives an empty set, made anew. -/
theorem instantiate_set (unchanged : store.revised = []) (keeps : store.world.KeepsBuiltins) :
    (e.instantiate (.builtin "set") {}).start store =
      (.ok (.set store.nextPlace []), { store with nextPlace := store.nextPlace + 1 }) := by
  obtain ⟨set, above, known, kind, order, noOwn⟩ := Library.set_class
  obtain ⟨object, known', own⟩ := Library.object_class
  have atSet := (keeps.class? "set").trans known
  have atObject : store.world.class? objectClass = some object := (keeps.class? "object").trans known'
  have found : store.world.lookup (.builtin "set") "__new__" = some (objectClass, .value (.builtin "__new__")) := by
    rw [World.lookup, World.orderOf, atSet]
    dsimp only
    rw [order, World.lookupIn_cons_of_none (by rw [atSet, Option.bind_some, noOwn]),
      World.lookupIn_cons_of_some (by rw [atObject, Option.bind_some, own])]
  have ordinary : store.world.kindOf? (.builtin "set") = some .ordinary := by
    rw [World.kindOf?, atSet, Option.map_some, kind]
  have isKnown : Run.world.start store = (.ok store.world, store) := rfl
  have nothing : (Run.currentAll []).start store = (.ok [], store) := Run.currentAll_start unchanged []
  have new := member?_start (.builtin "set") "__new__" store
  rw [found] at new
  rw [instantiate, Run.bind_ok isKnown, Run.bind_ok nothing, Run.bind_ok new]
  dsimp only [Option.map_some, rawMember]
  rw [makeObject, Run.bind_ok isKnown, ordinary]
  dsimp only
  rw [if_neg (by decide), if_pos (by rfl)]
  let store' := { store with nextPlace := store.nextPlace + 1 }
  have place : Run.freshPlace.start store = (.ok store.nextPlace, store') := rfl
  have items : (e.itemsForNewSet {}).start store' = (.ok [], store') := noItems_start unchanged
  change (do return .set (← Run.freshPlace) (← e.itemsForNewSet {}) : Run Value).start store = _
  rw [Run.bind_ok place, Run.bind_ok items]
  rfl

end Engine

end EachSubject
