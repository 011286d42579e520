import EachSubject.Execution.Equality

/-!
# Items

The items of a value are those that a loop over it meets. Data has them at once. An iterator gives each
of them once and may end in a fault. What the language makes of the items of others, such as pairs of
them, is made one by one, when it is asked for; a suspended generator runs when its first item is asked
for. An object of a class has items if its class has a function for them.
-/

namespace EachSubject

/-- Items, and the fault that stands behind the last one. -/
structure Items where
  found : List Value
  ending : Option Fault := none

namespace Engine

variable (e : Engine)

/-! ## Iterators -/

/-- Is an iterator itself. -/
def isIterator (value : Value) : Run Bool := do
  match value with
  | .reference id _ =>
    match ← Run.entity? id with
    | some (.iterator ..) => return true
    | some (.cursor ..) => return true
    | some (.stream ..) => return true
    | some (.suspended f _) => return f.form == .generator
    | some (.finished form) => return form == .generator
    | _ => return (← hook? value "__next__").isSome
  | _ => return false

/-- The class of the iterators over values of a class. -/
def iteratorClass (value : Value) : String :=
  match value.plain with
  | .list .. => "list_iterator"
  | .tuple .. => "tuple_iterator"
  | .text .. => "str_iterator"
  | .bytes .. => "bytes_iterator"
  | .range .. => "range_iterator"
  | .dict .. => "dict_keyiterator"
  | .view .keys _ => "dict_keyiterator"
  | .view .values _ => "dict_valueiterator"
  | .view .items _ => "dict_itemiterator"
  | .set .. => "set_iterator"
  | .frozenset .. => "set_iterator"
  | _ => "iterator"

/-- An iterator over the items of a value. -/
def iterator (value : Value) : Run Value := do
  match value with
  | .list .. => return .reference (← Run.allocate (.cursor value 0)) (.builtin "list_iterator")
  | value =>
    match ← hook? value "__iter__", ← hook? value "__getitem__" with
    | some f, _ =>
      let found ← e.callFunction f { positional := [value] }
      if ← isIterator found then return found else throw .mismatch
    | none, some f => Run.newStream "iterator" "item" [f, value, ← Run.newInt 0]
    | none, none =>
      if ← isIterator value then return value
      let items ← Run.orFault .mismatch (← dataItems? (← Run.current value))
      Run.newIterator (iteratorClass value) items

/-! ## The next item -/

/-- The first item of those that an iterator has; the iterator keeps the others. -/
def takeFirst (id : Nat) (items : Items) : Run (Option Value) := do
  match items.found, items.ending with
  | item :: rest, ending =>
    Run.setEntity id (.iterator rest ending)
    return some (← Run.current item)
  | [], some fault =>
    Run.setEntity id (.iterator [] none)
    throw fault
  | [], none => return none

/-- What a suspended generator yields. -/
def generated (id : Nat) (f : Function) (arguments : Arguments) : Run Items := do
  if f.form != .generator then throw .mismatch
  let outcome ← e.resume id f arguments
  return { found := outcome.yielded, ending := outcome.ending }

/-- What a step gives; nothing if it says that there are no more items. -/
def untilExhausted (step : Run (Option Value)) : Run (Option Value) :=
  tryCatch step fun fault =>
    if fault.errorClass == Fault.exhausted.errorClass then pure none else throw fault

/-- An item of each iterator; nothing as soon as one of them has no more. -/
def nextRow (next : Value → Run (Option Value)) : List Value → Run (Option (List Value))
  | [] => pure (some [])
  | iterator :: rest => do
    match ← next iterator with
    | none => return none
    | some first => return (← nextRow next rest).map (first :: ·)

/-- An item of each iterator; all of them have to end together. -/
def nextWholeRow (next : Value → Run (Option Value)) : List Value → Run (Option (List Value))
  | [] => pure none
  | first :: rest => do
    let unequal := Fault.badValue "zip() arguments have different lengths"
    match ← next first with
    | some item =>
      match ← nextRow next rest with
      | some others => return some (item :: others)
      | none => throw unequal
    | none =>
      if ← rest.anyM fun other => do return (← next other).isSome then throw unequal else return none

/-- The next item that a test accepts, or that is true. -/
def nextAccepted (next : Value → Run (Option Value)) (test source : Value) :
    Nat → Run (Option Value)
  | 0 => throw .tooDeep
  | fuel + 1 => do
    match ← next source with
    | none => return none
    | some item =>
      let verdict ← match test with
        | .none => pure item
        | test => e.apply test { positional := [item] }
      if ← e.isTrue verdict then return some item else nextAccepted next test source fuel

/-- The parameter through which the function of a generator gets the iterators of the loops that it is
    in, the innermost first. -/
def iteratorsParameter : String := ".0"

/-- The next item of a generator that is in the loops of some iterators, with those that it is in
    afterwards. -/
def advanceGenerator (f : Value) (iterators : List Value) : Run (Option (Value × List Value)) := do
  match f with
  | .reference id _ =>
    match ← Run.entity? id with
    | some (.function object) =>
      let outcome ← e.execute object.function [(iteratorsParameter, .extra iterators)]
      match outcome.yielded, outcome.result with
      | [item], .tuple _ iterators => return some (item, iterators)
      | _, _ => return none
    | _ => throw .mismatch
  | _ => throw .mismatch

/-- The next item that a function of the language makes of those of its arguments. -/
def nextMade (next : Value → Run (Option Value)) (id : Nat) (name : String)
    (arguments : List Value) : Run (Option Value) := do
  let count (last : Value) : Run Unit :=
    Run.setEntity id (.stream name (arguments.dropLast ++ [last]))
  match name, arguments with
  | "map", f :: sources =>
    match ← nextRow next sources with
    | some row => return some (← e.apply f { positional := row })
    | none => return none
  | "filter", [test, source] => e.nextAccepted next test source e.itemLimit
  | "zip", first :: rest =>
    match ← nextRow next (first :: rest) with
    | some row => return some (← Run.newTuple row)
    | none => return none
  | "strict zip", sources =>
    match ← nextWholeRow next sources with
    | some row => return some (← Run.newTuple row)
    | none => return none
  | "enumerate", [source, .int place n] =>
    match ← next source with
    | some item =>
      count (← Run.newInt (n + 1))
      return some (← pair (.int place n) item)
    | none => return none
  | "call", [f, sentinel] =>
    let found ← e.apply f {}
    if ← e.isTrue (← e.equality found sentinel) then
      Run.setEntity id (.iterator [] none)
      return none
    else return some found
  | "item", [f, source, .int place n] =>
    count (← Run.newInt (n + 1))
    tryCatch (do return some (← e.callFunction f { positional := [source, .int place n] })) fun fault => do
      if fault.errorClass == Fault.outOfRange.errorClass then
        Run.setEntity id (.iterator [] none)
        return none
      else throw fault
  | "generator", f :: iterators =>
    let next ← tryCatch (e.advanceGenerator f iterators) fun fault => do
      Run.setEntity id (.iterator [] none)
      throw (if fault.errorClass == Fault.exhausted.errorClass then .spent else fault)
    match next with
    | some (item, iterators) =>
      Run.setEntity id (.stream name (f :: iterators))
      return some item
    | none =>
      Run.setEntity id (.iterator [] none)
      return none
  | _, _ => return none

/-- The next item of an iterator, if there is one; `fuel` bounds how deep iterators take their items
    from one another. -/
def nextWithin : Nat → Value → Run (Option Value)
  | 0, _ => throw .tooDeep
  | fuel + 1, iterator => do
    match iterator with
    | .reference id _ =>
      match ← Run.entity? id with
      | some (.iterator found ending) => takeFirst id { found, ending }
      | some (.cursor source index) =>
        match ← Run.current source with
        | .list _ items =>
          Run.setEntity id
            (if index < items.length then .cursor source (index + 1) else .iterator [] none)
          return items[index]?
        | _ => return none
      | some (.stream name arguments) =>
        untilExhausted (e.nextMade (nextWithin fuel) id name arguments)
      | some (.suspended f arguments) => do takeFirst id (← e.generated id f arguments)
      | some (.finished .generator) => return none
      | _ =>
        let f ← Run.orFault .mismatch (← hook? iterator "__next__")
        untilExhausted do return some (← e.callFunction f { positional := [iterator] })
    | _ => throw .mismatch

/-- How deep iterators take their items from one another. -/
def iterationDepth : Nat := 100

/-- The next item of an iterator, if there is one. -/
def nextItem (iterator : Value) : Run (Option Value) := e.nextWithin iterationDepth iterator

/-! ## All items -/

/-- Collects what a step gives until it gives nothing, behind what was found before, the latest first;
    a fault ends it. -/
def collect (step : Run (Option Value)) (found : List Value) : Nat → Run Items
  | 0 => return { found := found.reverse, ending := some .tooDeep }
  | fuel + 1 => do
    match ← tryCatch (do return Except.ok (← step)) fun fault => return Except.error fault with
    | .ok (some value) => collect step (value :: found) fuel
    | .ok none => return { found := found.reverse }
    | .error fault => return { found := found.reverse, ending := some fault }

/-- The items that are left of an iterator. -/
def itemsLeft (iterator : Value) : Run Items := do
  match iterator with
  | .reference id _ =>
    match ← Run.entity? id with
    | some (.iterator found ending) =>
      Run.setEntity id (.iterator [] none)
      return { found, ending }
    | some (.suspended f arguments) => e.generated id f arguments
    | _ => collect (e.nextItem iterator) [] e.itemLimit
  | _ => throw .mismatch

/-- The items of a value that are left, with the fault behind them. -/
def itemsOf (value : Value) : Run Items := do
  match value with
  | .reference .. => do e.itemsLeft (← e.iterator value)
  | value => return { found := ← Run.orFault .mismatch (← dataItems? (← Run.current value)) }

/-- The items of a value, all of them. -/
def items (value : Value) : Run (List Value) := do
  let items ← e.itemsOf value
  match items.ending with
  | some fault => throw fault
  | none => return items.found

/-- Runs the result of a call to its end: a coroutine gives its result, a generator the list of what
    it yields. Anything else stays as it is. -/
def finish (value : Value) : Run Value := do
  match value with
  | .reference id owner =>
    if owner = suspendedClass .generator then return ← Run.newList (← e.items value)
    match ← Run.entity? id with
    | some (.suspended f arguments) =>
      let outcome ← e.resume id f arguments
      if f.form = .coroutine then return outcome.result
      match outcome.ending with
      | some fault => throw fault
      | none => Run.newList outcome.yielded
    | some (.finished .coroutine) => throw .spent
    | some (.finished _) => Run.newList []
    | _ => return value
  | _ => return value

/-! ## Going through items -/

/-- Takes the items of an iterator one after the other, at most so many. -/
def forEachNext (iterator : Value) (visit : Value → Run Unit) : Nat → Run Unit
  | 0 => throw .tooDeep
  | count + 1 => do
    match ← e.nextItem iterator with
    | some item =>
      visit item
      forEachNext iterator visit count
    | none => pure ()

/-- Visits the items of a value in order. Data has its items at once; of anything else, each item is
    only asked for when the ones before it are done. -/
def forEach (source : Value) (visit : Value → Run Unit) : Run Unit := do
  match source with
  | .reference .. => do e.forEachNext (← e.iterator source) visit e.itemLimit
  | source => do (← e.items source).forM visit

/-- Takes the items of an iterator, at most so many, until one passes a test; tells whether one does. -/
def anyNext (iterator : Value) (test : Value → Run Bool) : Nat → Run Bool
  | 0 => throw .tooDeep
  | count + 1 => do
    match ← e.nextItem iterator with
    | some item => if ← test item then return true else anyNext iterator test count
    | none => return false

/-- Some item passes a test; the items behind the first such one are not asked for. -/
def anyItem (source : Value) (test : Value → Run Bool) : Run Bool := do
  match source with
  | .reference .. => do e.anyNext (← e.iterator source) test e.itemLimit
  | source => do (← e.items source).anyM test

/-- The container holds the item. -/
def holds (container item : Value) : Run Bool := do
  match container with
  | .reference .. =>
    match ← e.callHook? container "__contains__" [item] with
    | some found => e.isTrue found
    | none => e.anyItem container fun other => e.matchesItem other item
  | container =>
    match (← Run.current container).plain with
    | .list _ items => e.anyMatches item items
    | .tuple _ items => e.anyMatches item items
    | .view .values (.dict _ entries) => e.anyMatches item (entries.map (·.2))
    | .view .keys dict => Run.membership dict item
    | .view .items dict =>
      match dict, item with
      | .dict _ entries, .tuple _ [key, value] =>
        return entries.any fun (k, v) => Value.matchesItem k key && Value.matchesItem v value
      | _, _ => return false
    | .range _ start stop step =>
      return Value.inRange start stop step item
    | found => Run.membership found item

end Engine

end EachSubject
