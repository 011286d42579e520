import EachSubject.Execution.Language
import EachSubject.Source.Scope

/-!
# Frames

Where a piece of source text runs: the scope of its own names, the scopes of the functions around it, and
the scope of its module. A name belongs to the block that binds it, unless that declares it to belong to
an outer one; a class sees the names of its module but not those that functions inside it would miss.
-/

namespace EachSubject

/-- What kind of block runs. -/
inductive FrameKind where
  | module
  | classBody
  | function
  | comprehension
deriving DecidableEq, Repr

/-- Where a piece of source text runs. -/
structure Frame where
  kind : FrameKind
  /-- The scope of the names that belong to the block. -/
  scope : Nat
  /-- The names that belong to the block. -/
  names : List String := []
  /-- The names that the block declares to belong to the module. -/
  globalNames : List String := []
  /-- The scopes of the functions around, the innermost first, with the names that belong to them. -/
  around : List (Nat × List String) := []
  /-- The scope of the module. -/
  globals : Nat
  /-- The name of the module. -/
  module : String
  /-- The name of the class around, for private names. -/
  owner : String := ""
  /-- How the block is reached from its module; nothing at its top. -/
  path : String := ""
  /-- The class around. -/
  definer : Option ClassName := none
  /-- The name of the first parameter. -/
  first : Option String := none
  /-- Where what is yielded is kept. -/
  yields : Option Nat := none

namespace Frame

/-- The name that a written name stands for. -/
def inside (f : Frame) (name : String) : String := Source.nameInside f.owner name

/-- The scopes that functions inside the block see. -/
def visible (f : Frame) : List (Nat × List String) :=
  match f.kind with
  | .module => f.around
  | .classBody => f.around
  | .function => (f.scope, f.names) :: f.around
  | .comprehension => (f.scope, f.names) :: f.around

/-- How what is defined in the block is reached from its module. -/
def pathOf (f : Frame) (name : String) : String :=
  match f.kind with
  | .module => name
  | .classBody => f.path ++ "." ++ name
  | _ => f.path ++ ".<locals>." ++ name

/-- The scope that gets a name when it is bound. -/
def target (f : Frame) (name : String) : Nat :=
  if f.globalNames.contains name then f.globals
  else if f.kind = .module || f.kind = .classBody then
    if f.names.contains name then f.scope
    else ((f.around.find? (·.2.contains name)).map (·.1)).getD f.scope
  else if f.names.contains name then f.scope
  else ((f.around.find? (·.2.contains name)).map (·.1)).getD f.globals

/-- What a name of the module stands for, or a name that is known everywhere. -/
def globalValue (f : Frame) (name : String) : Run Value := do
  match (← Run.namesOf f.globals).lookup name with
  | some value => return value
  | none => Run.orFault .unknownName (knownName? name)

/-- What a name stands for that does not belong to the block. -/
def outerValue (f : Frame) (name : String) : Run Value := do
  match f.around.find? (·.2.contains name) with
  | some (scope, _) => Run.orFault .unknownName ((← Run.namesOf scope).lookup name)
  | none =>
    match name, f.definer with
    | "__class__", some owner =>
      if f.kind = .function || f.kind = .comprehension then
        return (← Run.world).classValue owner
      else f.globalValue name
    | name, _ => f.globalValue name

/-- What a name stands for. -/
def value (f : Frame) (written : String) : Run Value := do
  let name := f.inside written
  if f.globalNames.contains name then f.globalValue name
  else
    match f.kind with
    | .module =>
      match (← Run.namesOf f.scope).lookup name with
      | some value => return value
      | none => f.globalValue name
    | .classBody =>
      match (← Run.namesOf f.scope).lookup name with
      | some value => return value
      | none => if f.names.contains name then f.globalValue name else f.outerValue name
    | _ =>
      if f.names.contains name then
        Run.orFault .unboundName ((← Run.namesOf f.scope).lookup name)
      else f.outerValue name

/-- Binds a name. -/
def bind (f : Frame) (written : String) (value : Value) : Run Unit :=
  let name := f.inside written
  Run.setName (f.target name) name value

/-- Forgets what a name stands for. -/
def forget (f : Frame) (written : String) : Run Unit := do
  let name := f.inside written
  let scope := f.target name
  let names ← Run.namesOf scope
  if names.any (·.1 == name) then Run.setEntity scope (.scope (names.filter (·.1 != name)))
  else throw (if f.kind = .function then .unboundName else .unknownName)

/-- Keeps a value that is yielded, in front of those that were yielded before. -/
def yield (f : Frame) (value : Value) : Run Unit := do
  match f.yields with
  | some id =>
    match ← Run.entity? id with
    | some (.iterator found ending) => Run.setEntity id (.iterator (value :: found) ending)
    | _ => pure ()
  | none => throw .malformed

/-- The frame of a comprehension in the block. -/
def comprehension (f : Frame) (scope : Nat) (names : List String) (yields : Option Nat) : Frame :=
  { f with kind := .comprehension, scope, names, globalNames := [], around := f.visible, yields }

end Frame

namespace Run

/-- The frame of a module in which names have been bound before. -/
def moduleFrame (module : String) (names : List (String × Value)) : Run Frame := do
  let nothing (name : String) : String × Value := (name, .none)
  let known := ["__doc__", "__package__", "__loader__", "__spec__"].map nothing
  let scope ← allocate (.scope (names ++ ("__name__", ← newText module) :: known))
  return { kind := .module, scope, globals := scope, module }

/-- A place for what a block yields. -/
def newYields : Run Nat := Run.allocate (.iterator [] none)

/-- What was yielded, in order. -/
def yielded (id : Nat) : Run (List Value) := do
  match ← Run.entity? id with
  | some (.iterator found _) => return found.reverse
  | _ => return []

/-- A constant of the text that runs; the same one is kept once. -/
def constant (literal : Source.Literal) : Run Value := do
  let store ← get
  let isCommon := match literal with
    | .whole value => isCommonInt value
    | .text value => isCommonText value
    | .bytes value => decide (value.length ≤ 1)
    | _ => false
  let place ← match isCommon, store.constants.lookup literal with
    | true, _ => pure 0
    | false, some place => pure place
    | false, none => do
      let place ← Run.freshPlace
      modify fun store => { store with constants := (literal, place) :: store.constants }
      pure place
  return match literal with
    | .none => .none
    | .bool value => .bool value
    | .whole value => .int place value
    | .real value => .float place value
    | .imaginary value => .complex place (.zero false) value
    | .text value => .text place value
    | .bytes value => .bytes place value
    | .ellipsis => .ellipsis

end Run

end EachSubject
