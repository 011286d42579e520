import EachSubject.Execution.Attribute

/-!
# Size, truth and equality

How many items a value has, whether it counts as true, and whether it equals another are decided by its
class if that has functions for it, and by what the value holds if not.
-/

namespace EachSubject.Engine

variable (e : Engine)

/-! ## Size -/

/-- A pair of values. -/
def pair (first second : Value) : Run Value := Run.newTuple [first, second]

/-- The items of data; nothing if the value is no such data. -/
def dataItems? (value : Value) : Run (Option (List Value)) := do
  match value.plain with
  | .list _ items => return some items
  | .tuple _ items => return some items
  | .set _ items => return some items
  | .frozenset _ items => return some items
  | .dict _ entries => return some (entries.map (·.1))
  | .view .keys (.dict _ entries) => return some (entries.map (·.1))
  | .view .values (.dict _ entries) => return some (entries.map (·.2))
  | .view .items (.dict _ entries) => return some (← entries.mapM fun (k, v) => pair k v)
  | .range _ start stop step =>
    Run.checkSize (Value.rangeLength start stop step)
    return some (← (Value.rangeItems start stop step).mapM Run.newInt)
  | .text _ text => return some (← text.toList.mapM fun c => Run.newText c.toString)
  | .bytes _ bytes => return some (← bytes.mapM fun b => Run.newInt (b.toNat : Int))
  | .class name true => return ((← Run.world).class? name).map World.membersOf
  | _ => return none

/-- The number of items of a value that has a size. -/
def size? (value : Value) : Run (Option Nat) := do
  match value with
  | .reference .. =>
    match ← e.callHook? value "__len__" [] with
    | none => return none
    | some size =>
      match size.plain with
      | .int _ n => if n < 0 then throw (.badValue "__len__() should return >= 0") else return n.toNat
      | .bool b => return some b.toNat
      | _ => throw .mismatch
  | value =>
    match value.plain with
    | .range _ start stop step => return some (Value.rangeLength start stop step)
    | .text _ text => return some text.length
    | .bytes _ bytes => return some bytes.length
    | _ => return (← dataItems? value).map List.length

/-! ## Truth -/

/-- Counts as true in a condition. -/
def isTrue (value : Value) : Run Bool := do
  match value with
  | .reference .. =>
    match ← e.callHook? value "__bool__" [] with
    | some (.bool b) => return b
    | some _ => throw .mismatch
    | none =>
      match ← e.size? value with
      | some n => return n != 0
      | none => return true
  | value => return (← Run.current value).isTrue

/-! ## Equality -/

/-- An operator that did not know its operands. -/
def isNotImplemented (value : Value) : Bool := Value.isSame value Value.notImplemented

/-- What the class of a value has for an operator, unless that does not know the other operand. -/
def operatorHook? (value : Value) (name : String) (other : Value) : Run (Option Value) := do
  match ← e.callHook? value name [other] with
  | some result => return if isNotImplemented result then none else some result
  | none => return none

/-- The fields of an object of a class below a class of records, if it has any. -/
def recordFields? (owner : ClassName) : Run (Option (List String)) := do
  let w ← Run.world
  return (w.orderOf owner).findSome? fun above =>
    match w.kindOf? above with
    | some (.record fields) => some (fields.map (·.name))
    | _ => none

/-- Two objects of the same class of records hold equal fields. -/
def recordsEqual? (left right : Value) : Run (Option Bool) := do
  match left, right with
  | .reference a owner, .reference b other =>
    match ← recordFields? owner with
    | some names =>
      if owner != other then return none
      let own ← Run.attributes a
      let others ← Run.attributes b
      return some (names.all fun n =>
        match own.lookup n, others.lookup n with
        | some x, some y => Value.matchesItem x y
        | _, _ => false)
    | none => return none
  | _, _ => return none

/-- The outcome of comparing two values for equality, which objects may give as they like. -/
def equality (left right : Value) : Run Value := do
  match ← e.operatorHook? left "__eq__" right with
  | some result => return result
  | none =>
    match ← e.operatorHook? right "__eq__" left with
    | some result => return result
    | none =>
      match ← recordsEqual? left right with
      | some same => return .bool same
      | none => return .bool (left.isEqual right)

/-- The outcome of comparing two values for difference. -/
def inequality (left right : Value) : Run Value := do
  match ← e.operatorHook? left "__ne__" right with
  | some result => return result
  | none =>
    match ← e.operatorHook? right "__ne__" left with
    | some result => return result
    | none => return .bool !(← e.isTrue (← e.equality left right))

/-- The same object, or equal: what a container looks for. -/
def matchesItem (item other : Value) : Run Bool := do
  if item.isSame other then return true
  e.isTrue (← e.equality item other)

/-- Some item matches. -/
def anyMatches (item : Value) : List Value → Run Bool
  | [] => pure false
  | other :: rest => do
    if ← e.matchesItem other item then return true else anyMatches item rest

end EachSubject.Engine
