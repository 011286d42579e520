import EachSubject.Execution.Order

/-!
# Functions of collections

Lists, dictionaries and sets change in place; tuples, ranges and frozen sets never do. An item is looked
for by identity and then by equality.
-/

namespace EachSubject.Engine

variable (e : Engine)

/-! ## Positions -/

/-- The positions of the items that match. -/
def matchingPositions (item : Value) (position : Nat) : List Value → Run (List Nat)
  | [] => pure []
  | other :: rest => do
    let here ← e.matchesItem other item
    let others ← matchingPositions item (position + 1) rest
    return if here then position :: others else others

/-- The position of the first item that matches, between two bounds. -/
def firstMatch? (item : Value) (first last : Int) (position : Nat) : List Value → Run (Option Nat)
  | [] => pure none
  | other :: rest => do
    if last ≤ position then return none
    if first ≤ position then
      if ← e.matchesItem other item then return some position
    firstMatch? item first last (position + 1) rest

/-- Where an item stands, or how often. -/
def lookFor (items : List Value) (name : String) (call : Call) : Run Value := do
  if name = "count" then
    return ← Run.newInt (← e.matchingPositions (← onlyArgument call) 0 items).length
  let count : Int := items.length
  match ← taken [place "value", maybePlace "start" (.int 0 0), maybePlace "stop" (.int 0 count)] call with
  | [item, start, stop] =>
    let bound (value : Value) : Run Int := do
      let n ← wholeOf value
      return if n < 0 then max 0 (n + count) else n
    match ← e.firstMatch? item (← bound start) (← bound stop) 0 items with
    | some position => Run.newInt position
    | none => throw (.badValue "value is not in the sequence")
  | _ => throw .mismatch

/-! ## Lists -/

/-- What a function of lists gives. -/
def listMethod (place : Nat) (items : List Value) (name : String) (call : Call) : Run Value := do
  let become (items : List Value) : Run Value := do
    Run.revise (.list place items)
    return .none
  match name with
  | "append" => do become (items ++ [← onlyArgument call])
  | "extend" => do become (items ++ (← e.items (← onlyArgument call)))
  | "insert" =>
    match ← taken [Engine.place "index", Engine.place "value"] call with
    | [index, value] =>
      let index ← e.indexOf index
      let index := if index < 0 then index + items.length else index
      become (items.take index.toNat ++ value :: items.drop index.toNat)
    | _ => throw .mismatch
  | "pop" =>
    match ← taken [maybePlace "index" (.int 0 (-1))] call with
    | [index] =>
      let position ← positionOf items.length (← e.indexOf index)
      let found ← Run.orFault .outOfRange items[position]?
      Run.revise (.list place (items.eraseIdx position))
      return found
    | _ => throw .mismatch
  | "remove" =>
    match ← e.firstMatch? (← onlyArgument call) 0 items.length 0 items with
    | some position => become (items.eraseIdx position)
    | none => throw (.badValue "list.remove(x): x not in list")
  | "reverse" => do
    noArguments call
    become items.reverse
  | "clear" => do
    noArguments call
    become []
  | "copy" => do
    noArguments call
    Run.newList items
  | "sort" =>
    match ← taken sortingParameters call with
    | [key, isReversed] => do become (← e.sorted items key (← e.isTrue isReversed))
    | _ => throw .mismatch
  | "__init__" =>
    match ← taken [maybePlace "items" (.tuple 0 [])] call with
    | [source] => do become (← e.items source)
    | _ => throw .mismatch
  | "__iadd__" => do
    discard <| become (items ++ (← e.items (← onlyArgument call)))
    return .list place items
  | name =>
    if name = "index" || name = "count" then e.lookFor items name call else throw .missingAttribute

/-! ## Dictionaries -/

/-- The entries that a value has: those of a dictionary, or its items as pairs. -/
def entriesFor (value : Value) : Run (List (Value × Value)) := do
  match value.plain with
  | .dict _ entries => return entries
  | value =>
    match ← hook? value "keys" with
    | some keys =>
      let keys ← e.items (← e.callFunction keys { positional := [value] })
      keys.mapM fun key => do return (key, ← e.getItem value key)
    | none =>
      (← e.items value).mapM fun item => do
        match ← e.items item with
        | [key, found] => return (key, found)
        | _ => throw (.badValue "dictionary update sequence element has length other than 2")

/-- Entries without repetition; keys have to be fit for a dictionary. -/
def keyedEntries (entries : List (Value × Value)) : Run (List (Value × Value)) := do
  if !entries.all (·.1.isHashable) then throw .mismatch
  return Value.distinctEntries entries

/-- The entries that the arguments of a call make. -/
def entriesOfCall (call : Call) : Run (List (Value × Value)) := do
  let given ← match call.positional with
    | [] => pure []
    | [source] => do e.entriesFor (← Run.current source)
    | _ => throw .mismatch
  let named ← call.keywords.mapM fun (name, value) => do return (← Run.newText name, value)
  keyedEntries (given ++ named)

/-- What a function of dictionaries gives. -/
def dictMethod (place : Nat) (entries : List (Value × Value)) (name : String) (call : Call) :
    Run Value := do
  let become (entries : List (Value × Value)) : Run Value := do
    Run.revise (.dict place entries)
    return .none
  let without (key : Value) : List (Value × Value) :=
    entries.filter fun entry => !Value.matchesItem key entry.1
  match name with
  | "get" =>
    match ← taken [Engine.place "key", maybePlace "default" .none] call with
    | [key, default] => return (← entry? entries key).getD default
    | _ => throw .mismatch
  | "setdefault" =>
    match ← taken [Engine.place "key", maybePlace "default" .none] call with
    | [key, default] =>
      match ← entry? entries key with
      | some found => return found
      | none =>
        discard <| become (entries ++ [(key, default)])
        return default
    | _ => throw .mismatch
  | "pop" =>
    match ← taken [Engine.place "key", maybePlace "default" .none] call with
    | [key, default] =>
      match ← entry? entries key with
      | some found =>
        discard <| become (without key)
        return found
      | none => if call.positional.length = 2 then return default else throw .missingKey
    | _ => throw .mismatch
  | "popitem" => do
    noArguments call
    match entries.getLast? with
    | some (key, value) =>
      discard <| become entries.dropLast
      Run.newTuple [key, value]
    | none => throw .missingKey
  | "keys" => do
    noArguments call
    return .view .keys (.dict place entries)
  | "values" => do
    noArguments call
    return .view .values (.dict place entries)
  | "items" => do
    noArguments call
    return .view .items (.dict place entries)
  | "update" => do become (Value.distinctEntries (entries ++ (← e.entriesOfCall call)))
  | "__init__" => do become (Value.distinctEntries (entries ++ (← e.entriesOfCall call)))
  | "clear" => do
    noArguments call
    become []
  | "copy" => do
    noArguments call
    return .dict (← Run.freshPlace) entries
  | _ => throw .missingAttribute

/-- A dictionary with the same value under all keys. -/
def dictFromKeys (call : Call) : Run Value := do
  match ← taken [place "iterable", maybePlace "value" .none] call with
  | [keys, value] =>
    let entries ← keyedEntries ((← e.items keys).map fun key => (key, value))
    return .dict (← Run.freshPlace) entries
  | _ => throw .mismatch

/-! ## Sets -/

/-- Items without repetition, fit for a set. -/
def setItems (items : List Value) : Run (List Value) := do
  if !items.all Value.isHashable then throw .mismatch
  return Value.setOf items

/-- The items of an argument, without repetition. -/
def itemsForSet (value : Value) : Run (List Value) := do setItems (← e.items value)

/-- The set operators by the names of their functions. -/
def setFunctions : List (String × String) :=
  [("union", "|"), ("intersection", "&"), ("difference", "-"), ("symmetric_difference", "^"),
   ("update", "|"), ("intersection_update", "&"), ("difference_update", "-"),
   ("symmetric_difference_update", "^")]

/-- A set function that changes its set. -/
def isUpdate (name : String) : Bool :=
  ["update", "intersection_update", "difference_update", "symmetric_difference_update"].contains name

/-- Works through the arguments of a set function. -/
def combinedItems (op : String) (items : List Value) (call : Call) : Run (List Value) := do
  if !call.keywords.isEmpty then throw .mismatch
  if op = "^" && call.positional.length != 1 then throw .mismatch
  (← Run.currentAll call.positional).foldlM (fun items other => do
    Run.orFault .mismatch (itemsOperator? op items (← e.itemsForSet other))) items

/-- Contains all items. -/
def includes (items others : List Value) : Bool :=
  others.all fun other => items.any (Value.matchesItem other)

/-- What a function of sets gives; `make` makes a set of the same kind. -/
def setMethod (become make : List Value → Run Value) (items : List Value) (name : String)
    (call : Call) : Run Value := do
  match setFunctions.lookup name with
  | some op =>
    let found ← e.combinedItems op items call
    if isUpdate name then become found else make found
  | none =>
    match name with
    | "copy" => do
      noArguments call
      make (Value.inCopyOrder items)
    | "clear" => do
      noArguments call
      become []
    | "pop" => do
      noArguments call
      match items with
      | item :: rest =>
        discard <| become rest
        return item
      | [] => throw .missingKey
    | "__init__" =>
      match ← taken [maybePlace "items" (.tuple 0 [])] call with
      | [source] => do become (← e.itemsForSet source)
      | _ => throw .mismatch
    | "issubset" => do return .bool (includes (← e.itemsForSet (← onlyArgument call)) items)
    | "issuperset" => do return .bool (includes items (← e.itemsForSet (← onlyArgument call)))
    | "isdisjoint" => do
      let others ← e.itemsForSet (← onlyArgument call)
      return .bool !(items.any fun item => others.any (Value.matchesItem item))
    | name =>
      let item ← onlyArgument call
      if !item.isHashable then throw .mismatch
      let isThere := items.any (Value.matchesItem item)
      let others := items.filter (!Value.matchesItem item ·)
      match name with
      | "add" => if isThere then return .none else become (Value.inSetOrder (items ++ [item]))
      | "discard" => become others
      | "remove" => if isThere then become others else throw .missingKey
      | _ => throw .missingAttribute

/-! ## Other collections -/

/-- What a function of ranges gives. -/
def rangeMethod (start stop step : Int) (name : String) (call : Call) : Run Value := do
  let item ← onlyArgument call
  let found := Value.inRange start stop step item
  match name with
  | "count" => Run.newInt (if found then 1 else 0)
  | "index" =>
    match found, item.plain with
    | true, .int _ n => Run.newInt ((n - start) / step)
    | true, .bool b => Run.newInt ((b.toInt - start) / step)
    | true, .float _ x =>
      Run.newInt (((x.toInt?).getD start - start) / step)
    | _, _ => throw (.badValue "value is not in range")
  | _ => throw .missingAttribute

/-- What a function of slices gives. -/
def sliceMethod (start stop step : Value) (name : String) (call : Call) : Run Value := do
  match name with
  | "indices" =>
    let count ← e.indexOf (← onlyArgument call)
    if count < 0 then throw (.badValue "length should not be negative")
    let (first, last, by_) ← e.sliceBounds count.toNat start stop step
    Run.newTuple [← Run.newInt first, ← Run.newInt last, ← Run.newInt by_]
  | _ => throw .missingAttribute

/-- What a function of what is seen of a dictionary gives. -/
def viewMethod (view : Value) (name : String) (call : Call) : Run Value := do
  match name with
  | "isdisjoint" =>
    let others ← e.itemsForSet (← onlyArgument call)
    let items ← e.items view
    return .bool !(items.any fun item => others.any (Value.matchesItem item))
  | _ => throw .missingAttribute

end EachSubject.Engine
