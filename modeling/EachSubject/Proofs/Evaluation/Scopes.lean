import EachSubject.Proofs.Evaluation.Constants

/-!
# Scopes of modules and classes

What is bound in the body of a module, or of a class at its top, is bound in the scope of that body. A name is looked
up there first, then in the module, and at last among the names that are known everywhere. Imports bind what the names
of a module stand for, one after the other, and leave everything else as it is.
-/

namespace EachSubject

open Source

/-! ## Runs that come to their end -/

/-- The run gives a result; the result and the store that it leaves are as they should be. -/
def Run.Ends {α : Type} (run : Run α) (store : Store) (holds : α → Store → Prop) : Prop :=
  ∃ a last, run.start store = (.ok a, last) ∧ holds a last

/-- What is known in a store stays known: the classes, what data has become, and the objects, up to some scopes. -/
structure Store.Grows (scopes : List Nat) (store later : Store) : Prop where
  world : later.world = store.world
  revised : later.revised = store.revised
  kept : ∀ id ∉ scopes, ∀ entity, store.entities[id]? = some entity → later.entities[id]? = some entity

namespace Store.Grows

variable {scopes : List Nat} {store later last : Store}

theorem refl (scopes : List Nat) (store : Store) : store.Grows scopes store := ⟨rfl, rfl, fun _ _ _ => id⟩

theorem trans (first : store.Grows scopes later) (further : later.Grows scopes last) : store.Grows scopes last where
  world := further.world.trans first.world
  revised := further.revised.trans first.revised
  kept id other entity known := further.kept id other entity (first.kept id other entity known)

theorem mono (grows : store.Grows scopes later) {more : List Nat} (within : scopes ⊆ more) : store.Grows more later :=
  ⟨grows.world, grows.revised, fun id other => grows.kept id fun among => other (within among)⟩

theorem advanced (scopes : List Nat) (store : Store) (next : Nat) (constants : List (Literal × Nat)) :
    store.Grows scopes (store.advanced next constants) := ⟨rfl, rfl, fun _ _ _ => id⟩

end Store.Grows

namespace Run

variable {α β : Type} {run : Run α} {more : α → Run β} {store : Store} {holds : α → Store → Prop}
  {finally_ : β → Store → Prop}

theorem Ends.pure {a : α} (here : holds a store) : Ends (Pure.pure a) store holds := ⟨a, store, rfl, here⟩

theorem Ends.bind (first : run.Ends store holds) (behind : ∀ a last, holds a last → (more a).Ends last finally_) :
    (run >>= more).Ends store finally_ := by
  obtain ⟨a, middle, started, here⟩ := first
  obtain ⟨b, last, further, there⟩ := behind a middle here
  exact ⟨b, last, (bind_ok started).trans further, there⟩

theorem Ends.imp (ends : run.Ends store holds) {others : α → Store → Prop}
    (implies : ∀ a last, holds a last → others a last) : run.Ends store others := by
  obtain ⟨a, last, started, here⟩ := ends
  exact ⟨a, last, started, implies a last here⟩

/-- A step that is known to give a result is left behind. -/
theorem Ends.step {a : α} {middle : Store} (started : run.start store = (.ok a, middle))
    (behind : (more a).Ends middle finally_) : (run >>= more).Ends store finally_ := by
  obtain ⟨b, last, further, there⟩ := behind
  exact ⟨b, last, (bind_ok started).trans further, there⟩

/-! ## Entities -/

theorem allocate_ends (entity : Entity) (store : Store) : (allocate entity).Ends store fun id last =>
    store.entities[id]? = none ∧ last.entities[id]? = some entity ∧ store.Grows [] last := by
  refine ⟨store.entities.size, { store with entities := store.entities.push entity }, rfl, ?_, ?_, rfl, rfl, ?_⟩
  · simp
  · simp
  · intro id _ known found
    have inside := (Array.getElem?_eq_some_iff.1 found).1
    rw [Array.getElem?_push_lt inside]
    exact Array.getElem?_eq_getElem inside ▸ found

theorem newText_ends (text : String) (store : Store) : (newText text).Ends store fun value last =>
    (∃ place, value = .text place text) ∧ store.Grows [] last ∧ last.entities = store.entities := by
  obtain ⟨place, next, _, placed⟩ := placeFor_start store (isCommonText text) store.nextPlace store.constants
  exact ⟨.text place text, store.advanced next store.constants, bind_ok placed, ⟨place, rfl⟩, .advanced _ _ _ _, rfl⟩

theorem namesOf_start {scope : Nat} {names : List (String × Value)}
    (isScope : store.entities[scope]? = some (.scope names)) : (namesOf scope).start store = (.ok names, store) := by
  have found : (entity? scope).start store = (.ok store.entities[scope]?, store) := rfl
  rw [namesOf, bind_ok found, isScope]
  rfl

/-- A name is bound in a scope, and nothing else changes. -/
theorem setName_ends {scope : Nat} {names : List (String × Value)}
    (isScope : store.entities[scope]? = some (.scope names)) (name : String) (value : Value) :
    (setName scope name value).Ends store fun _ last =>
      store.Grows [scope] last ∧ last.entities[scope]? = some (.scope (bindName names name value)) := by
  have inside := (Array.getElem?_eq_some_iff.1 isScope).1
  let entities := store.entities.setIfInBounds scope (.scope (bindName names name value))
  refine .step (namesOf_start isScope) ⟨(), { store with entities }, rfl, ⟨rfl, rfl, ?_⟩, ?_⟩
  · intro id other entity known
    rw [Array.getElem?_setIfInBounds_ne (Ne.symm (List.ne_of_not_mem_cons other))]
    exact known
  · exact Array.getElem?_setIfInBounds_self_of_lt inside

end Run

/-! ## Frames -/

/-- The body of a module, or of a class at its top, runs in the frame, and declares no names to belong to another. -/
structure Frame.IsOuter (f : Frame) : Prop where
  kind : f.kind = .module ∨ f.kind = .classBody
  around : f.around = []
  globalNames : f.globalNames = []

/-- The names that are bound in the frame so far, and those that are bound in its module. -/
structure Frame.Sees (f : Frame) (store : Store) (own outer : List (String × Value)) : Prop where
  own : store.entities[f.scope]? = some (.scope own)
  outer : store.entities[f.globals]? = some (.scope outer)

namespace Frame.IsOuter

variable {f : Frame} {store : Store} {own outer : List (String × Value)} {name : String} {value : Value}

theorem target (isOuter : f.IsOuter) (name : String) : f.target name = f.scope := by
  rw [Frame.target, isOuter.globalNames, if_neg (by simp), if_pos, isOuter.around]
  · exact ite_self _
  · rcases isOuter.kind with kind | kind <;> simp [kind]

/-- A name is bound in the scope of the frame. -/
theorem bind_ends (isOuter : f.IsOuter) (isScope : store.entities[f.scope]? = some (.scope own)) (name : String)
    (value : Value) : (f.bind name value).Ends store fun _ last => store.Grows [f.scope] last ∧
      last.entities[f.scope]? = some (.scope (Run.bindName own (f.inside name) value)) := by
  rw [Frame.bind, isOuter.target]
  exact Run.setName_ends isScope _ _

/-- A name of the module, or one that is known everywhere. -/
private theorem globalValue_start (seen : store.entities[f.globals]? = some (.scope outer))
    (known : (outer.lookup name).or (knownName? name) = some value) :
    (f.globalValue name).start store = (.ok value, store) := by
  rw [Frame.globalValue, Run.bind_ok (Run.namesOf_start seen)]
  cases bound : outer.lookup name with
  | none =>
    rw [bound, Option.none_or] at known
    dsimp only
    rw [known]
    rfl
  | some found =>
    rw [bound, Option.some_or] at known
    cases known
    rfl

private theorem outerValue_start (isOuter : f.IsOuter) (seen : store.entities[f.globals]? = some (.scope outer))
    (known : (outer.lookup name).or (knownName? name) = some value) :
    (f.outerValue name).start store = (.ok value, store) := by
  have global := globalValue_start seen known
  unfold Frame.outerValue
  rw [isOuter.around, List.find?_nil]
  dsimp only
  split
  · rw [if_neg]
    · exact global
    · rcases isOuter.kind with kind | kind <;> simp [kind]
  · exact global

/-- A name is looked up in the frame first, then in its module, and then among the names that are known everywhere. -/
theorem value_start (isOuter : f.IsOuter) (sees : f.Sees store own outer) {written : String}
    (known : ((own.lookup (f.inside written)).or (outer.lookup (f.inside written))).or
      (knownName? (f.inside written)) = some value) : (f.value written).start store = (.ok value, store) := by
  rw [Option.or_assoc] at known
  rw [Frame.value, isOuter.globalNames, if_neg (by simp)]
  rcases isOuter.kind with kind | kind
  all_goals
    rw [kind]
    dsimp only
    rw [Run.bind_ok (Run.namesOf_start sees.own)]
    cases bound : own.lookup (f.inside written) with
    | none =>
      rw [bound, Option.none_or] at known
      dsimp only
      first
        | exact globalValue_start sees.outer known
        | split
          · exact globalValue_start sees.outer known
          · exact outerValue_start isOuter sees.outer known
    | some found =>
      rw [bound, Option.some_or] at known
      cases known
      rfl

end Frame.IsOuter

/-! ## Imports -/

/-- The names with further ones bound behind them. -/
def Run.bindNames (names : List (String × Value)) (entries : List (String × Value)) : List (String × Value) :=
  entries.foldl (fun names entry => Run.bindName names entry.1 entry.2) names

theorem Run.lookup_bindNames (name : String) : ∀ (entries names : List (String × Value)),
    (Run.bindNames names entries).lookup name = (entries.reverse.lookup name).or (names.lookup name)
  | [], _ => rfl
  | (bound, value) :: entries, names => by
    rw [Run.bindNames, List.foldl_cons, ← Run.bindNames, lookup_bindNames name entries, Run.lookup_bindName,
      List.reverse_cons, List.lookup_append, Option.or_assoc]
    by_cases same : name = bound
    · rw [if_pos same, same, List.lookup_cons_self, Option.some_or]
    · rw [if_neg same, List.lookup_cons, beq_false_of_ne same]
      rfl

/-- The statement imports the names from one module, where they stand for these values. -/
def World.Imports (w : World) (s : Stmt) (entries : List (String × Value)) : Prop :=
  ∃ path, s = .importNames 0 path (some (entries.map fun entry => (entry.1, none))) ∧
    ∀ entry ∈ entries, w.importName (".".intercalate path) entry.1 = .ok entry.2

namespace Engine

variable {e : Engine} {f : Frame} {store : Store} {names : List (String × Value)}

private theorem importFrom_ends (isOuter : f.IsOuter) (module : String) : ∀ {entries : List (String × Value)}
    {store : Store} {names : List (String × Value)}, store.entities[f.scope]? = some (.scope names) →
      (∀ entry ∈ entries, store.world.importName module entry.1 = .ok entry.2) →
      (∀ entry ∈ entries, f.inside entry.1 = entry.1) →
      (importFrom f module (entries.map fun entry => (entry.1, none))).Ends store fun _ last =>
        store.Grows [f.scope] last ∧ last.entities[f.scope]? = some (.scope (Run.bindNames names entries))
  | [], store, _, isScope, _, _ => .pure ⟨.refl _ store, isScope⟩
  | (name, value) :: entries, store, names, isScope, gives, inside => by
    obtain ⟨given, behind⟩ := List.forall_mem_cons.1 gives
    obtain ⟨same, insideBehind⟩ := List.forall_mem_cons.1 inside
    have known : Run.world.start store = (.ok store.world, store) := rfl
    have found : (Run.lift (store.world.importName module name)).start store = (.ok value, store) := by
      rw [given]
      rfl
    rw [importFrom, List.map_cons, List.forM_eq_forM, List.forM_cons]
    refine .bind (.step known (.step found (isOuter.bind_ends isScope name value))) fun _ middle here => ?_
    obtain ⟨grows, isBound⟩ := here
    rw [same] at isBound
    refine (importFrom_ends isOuter module isBound (by rwa [grows.world]) insideBehind).imp fun _ last there => ?_
    exact ⟨grows.trans there.1, there.2⟩

/-- Imports at the top of a module bind what they import, in order. -/
theorem runAll_imports (isOuter : f.IsOuter) {rest : List Stmt} {holds : Signal → Store → Prop} :
    ∀ {statements : List Stmt} {imported : List (List (String × Value))} {store : Store}
      {names : List (String × Value)}, List.Forall₂ store.world.Imports statements imported →
      store.entities[f.scope]? = some (.scope names) → (∀ entry ∈ imported.flatten, f.inside entry.1 = entry.1) →
      (∀ later, store.Grows [f.scope] later →
        later.entities[f.scope]? = some (.scope (Run.bindNames names imported.flatten)) →
        (e.runAll f rest).Ends later holds) →
      (e.runAll f (statements ++ rest)).Ends store holds
  | _, _, store, _, .nil, isScope, _, behind => behind store (.refl _ store) isScope
  | _ :: statements, entries :: imported, store, names, .cons ⟨path, same, gives⟩ others, isScope, inside, behind => by
    subst same
    rw [List.flatten_cons, List.forall_mem_append] at inside
    have absolute : (absoluteModule f 0 path).start store = (.ok (".".intercalate path), store) := rfl
    have ran : (e.runStatement f (.importNames 0 path (some (entries.map fun entry => (entry.1, none))))).Ends store
        fun signal last => signal = .next ∧ store.Grows [f.scope] last ∧
          last.entities[f.scope]? = some (.scope (Run.bindNames names entries)) := by
      rw [runStatement]
      exact .step absolute (.bind (importFrom_ends isOuter _ isScope gives inside.1) fun _ _ here => .pure ⟨rfl, here⟩)
    rw [List.cons_append, runAll]
    refine .bind ran fun signal middle here => ?_
    obtain ⟨rfl, grows, isBound⟩ := here
    refine runAll_imports isOuter (by rwa [grows.world]) isBound inside.2 fun later further seen => ?_
    rw [Run.bindNames, Run.bindNames, ← List.foldl_append, ← List.flatten_cons] at seen
    exact behind later (grows.trans further) seen

end Engine

end EachSubject
