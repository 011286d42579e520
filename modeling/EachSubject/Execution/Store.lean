import EachSubject.Call
import EachSubject.Value.Equality
import EachSubject.World.Module

/-!
# Objects and failures

Running a function reads and changes a store: the classes known so far, the objects made so far with
their attributes, what has become of data that can change, the failures recorded so far, and the next
free place for new data. A run ends with a value or with a fault, and in both cases with the store that
it left.
-/

namespace EachSubject

/-- What is done about a failed check. -/
inductive FailurePolicy where
  /-- The run ends. -/
  | raise
  /-- The failure is recorded, and the run goes on. -/
  | collect
deriving DecidableEq, Repr

/-- A function that was made while running. -/
structure FunctionObject where
  function : Function
  attributes : List (String × Value) := []

/-- What a store keeps about an object. -/
inductive Entity where
  | object (attributes : List (String × Value))
  /-- The names of a scope and what they stand for, the latest first. -/
  | scope (names : List (String × Value))
  | function (object : FunctionObject)
  /-- Gives its items one after the other, each once, and then ends, by a fault if there is one. -/
  | iterator (remaining : List Value) (ending : Option Fault)
  /-- Gives the items of a list that may change, from an index on. -/
  | cursor (source : Value) (index : Nat)
  /-- Gives what a function of the language makes of the items of its arguments. -/
  | stream (name : String) (arguments : List Value)
  /-- A call that has not run yet. -/
  | suspended (function : Function) (arguments : Arguments)
  /-- A suspended call that has run. -/
  | finished (form : FunctionForm)

structure Store where
  world : World
  /-- The objects by their numbers. -/
  entities : Array Entity := #[]
  policy : FailurePolicy
  /-- The recorded failures, in order. -/
  failures : List Failure := []
  /-- No data was made at this place or at a later one. -/
  nextPlace : Nat
  /-- What data that was changed has become, by its place. -/
  revised : List (Nat × Value) := []
  /-- The places of the constants of the text that runs. -/
  constants : List (Source.Literal × Nat) := []
  /-- The faults that are being handled, the innermost first. -/
  handled : List Fault := []

/-- A computation that changes the store and may end in a fault. -/
abbrev Run := ExceptT Fault (StateM Store)

namespace Run

/-- Runs from a store. -/
def start {α : Type} (run : Run α) (store : Store) : Except Fault α × Store := run store

/-- The classes known so far. -/
def world : Run World := do return (← get).world

/-- A new place for data. -/
def freshPlace : Run Nat := do
  let store ← get
  set { store with nextPlace := store.nextPlace + 1 }
  return store.nextPlace

/-- The value, or a fault if there is none. -/
def orFault {α : Type} (fault : Fault) : Option α → Run α
  | some a => pure a
  | none => throw fault

/-- An outcome as a step of a run. -/
def lift {α : Type} : Except Fault α → Run α
  | .ok a => pure a
  | .error fault => throw fault

/-! ## Data -/

/-- No data has more parts than this. -/
def partLimit : Nat := 100000000

/-- There is no room for more parts than the limit, and beyond the machine's numbers they cannot even
    be counted. -/
def checkSize (count : Nat) : Run Unit := do
  if Nat.pow 2 63 ≤ count then throw .overflow
  else if partLimit < count then
    throw (.raised (.error (← freshPlace) (.builtin "MemoryError") []))

/-- The place of new data; data that is kept once, because it is so common, has none. -/
def placeFor (isCommon : Bool) : Run Nat := if isCommon then pure 0 else freshPlace

/-- A small number, which is kept once. -/
def isCommonInt (value : Int) : Bool := -5 ≤ value && value ≤ 256

/-- A text of at most one character from the first 256, which is kept once. -/
def isCommonText (value : String) : Bool :=
  match value.toList with
  | [] => true
  | [c] => c.toNat < 256
  | _ => false

def newText (value : String) : Run Value := do return .text (← placeFor (isCommonText value)) value
def newInt (value : Int) : Run Value := do return .int (← placeFor (isCommonInt value)) value
def newFloat (value : Double) : Run Value := do return .float (← freshPlace) value
def newBytes (value : List UInt8) : Run Value := do
  return .bytes (← placeFor (value.length ≤ 1)) value
def newList (items : List Value) : Run Value := do return .list (← freshPlace) items
def newTuple (items : List Value) : Run Value := do return .tuple (← placeFor items.isEmpty) items

/-- Values by name as a dictionary. -/
def newDict (entries : List (String × Value)) : Run Value := do
  let place ← freshPlace
  let entries ← entries.mapM fun (key, value) => do return (← newText key, value)
  return .dict place entries

/-- The place of data that can change. -/
def changeable? : Value → Option Nat
  | .list place _ => some place
  | .set place _ => some place
  | .dict place _ => some place
  | _ => none

/-- Data that was changed takes the place of what it was. -/
def revise (value : Value) : Run Unit := do
  match changeable? value with
  | some place =>
    modify fun store =>
      { store with revised := (place, value) :: store.revised.filter (·.1 != place) }
  | none => throw .mismatch

mutual

/-- A value with all data inside as it has become. `open` are the places that it is inside of, and
    `fuel` bounds how deep data is nested. -/
def refreshed (revised : List (Nat × Value)) (around : List Nat) : Nat → Value → Value
  | 0, value => value
  | fuel + 1, value =>
    match changeable? value with
    | some place =>
      if around.contains place then
        .foreign value.classOf (match value with | .dict .. => "\x7b...\x7d" | _ => "[...]")
      else
        refreshedInside revised (place :: around) fuel ((revised.lookup place).getD value)
    | none => refreshedInside revised around fuel value

/-- A value with the data that it holds as it has become. -/
def refreshedInside (revised : List (Nat × Value)) (around : List Nat) (fuel : Nat) :
    Value → Value
  | .list place items => .list place (items.map (refreshed revised around fuel))
  | .tuple place items => .tuple place (items.map (refreshed revised around fuel))
  | .dict place entries =>
    .dict place (entries.map fun (key, value) => (key, refreshed revised around fuel value))
  | .set place items => .set place items
  | .record place owner fields =>
    .record place owner (fields.map fun (name, value) => (name, refreshed revised around fuel value))
  | .view kind dict => .view kind (refreshed revised around fuel dict)
  | .bound receiver function => .bound (refreshed revised around fuel receiver) function
  | .method receiver name => .method (refreshed revised around fuel receiver) name
  | value => value

end

/-- How deep data is looked into. -/
def dataDepth : Nat := 500

/-- A value as it has become. -/
def current (value : Value) : Run Value := do
  let revised := (← get).revised
  return if revised.isEmpty then value else refreshed revised [] dataDepth value

def currentAll (values : List Value) : Run (List Value) := do
  let revised := (← get).revised
  return if revised.isEmpty then values else values.map (refreshed revised [] dataDepth)

/-- The container holds the item. -/
def membership (container item : Value) : Run Bool :=
  match container.holds item with
  | .ok found => pure found
  | .error .unsuitable => throw .mismatch
  | .error .notByte => throw (.badValue "byte must be in range(0, 256)")

/-! ## Objects -/

/-- Keeps a new object. -/
def allocate (entity : Entity) : Run Nat := do
  let store ← get
  set { store with entities := store.entities.push entity }
  return store.entities.size

def entity? (id : Nat) : Run (Option Entity) := do
  return (← get).entities[id]?

def setEntity (id : Nat) (entity : Entity) : Run Unit :=
  modify fun store => { store with entities := store.entities.setIfInBounds id entity }

/-- The attributes that an object keeps. -/
def attributes (id : Nat) : Run (List (String × Value)) := do
  match ← entity? id with
  | some (.object attributes) => return attributes
  | some (.function object) => return object.attributes
  | _ => return []

/-- Replaces the attributes that an object keeps. -/
def setAttributes (id : Nat) (attributes : List (String × Value)) : Run Unit := do
  match ← entity? id with
  | some (.function object) => setEntity id (.function { object with attributes })
  | _ => setEntity id (.object attributes)

/-- Sets a name in a list of names. -/
def bindName (names : List (String × Value)) (name : String) (value : Value) :
    List (String × Value) :=
  if names.any (·.1 == name) then names.map fun n => if n.1 == name then (name, value) else n
  else names ++ [(name, value)]

/-- Sets an attribute that an object keeps. -/
def keepAttribute (id : Nat) (name : String) (value : Value) : Run Unit := do
  setAttributes id (bindName (← attributes id) name value)

/-- The names of a scope. -/
def namesOf (scope : Nat) : Run (List (String × Value)) := do
  match ← entity? scope with
  | some (.scope names) => return names
  | _ => return []

/-- Lets a name of a scope stand for a value. -/
def setName (scope : Nat) (name : String) (value : Value) : Run Unit := do
  setEntity scope (.scope (bindName (← namesOf scope) name value))

/-- An iterator over items. -/
def newIterator (owner : String) (items : List Value) : Run Value := do
  return .reference (← allocate (.iterator items none)) (.builtin owner)

/-- An iterator over what a function of the language makes of its arguments. -/
def newStream (owner name : String) (arguments : List Value) : Run Value := do
  return .reference (← allocate (.stream name arguments)) (.builtin owner)

/-! ## Failures -/

/-- Reports a failure: it is recorded, or it ends the run. -/
def reportFailure (failure : Failure) : Run Unit := do
  match (← get).policy with
  | .raise => throw (.failedCheck failure)
  | .collect => modify fun store => { store with failures := store.failures ++ [failure] }

end Run

/-- The number of the object that failures are reported to. -/
def reporterId : Nat := 0

/-- The class of the object that failures are reported to. -/
def FailurePolicy.reporterClass : FailurePolicy → ClassName
  | .raise => raisingClass
  | .collect => collectingClass

/-- What failures are reported to, as a value. -/
def FailurePolicy.reporter (policy : FailurePolicy) : Value := .reference reporterId policy.reporterClass

/-- A store in which nothing has happened. -/
def Store.start (world : World) (policy : FailurePolicy) (nextPlace : Nat) : Store :=
  { world, policy, nextPlace, entities := #[.object []] }

end EachSubject
