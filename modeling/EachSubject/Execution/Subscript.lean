import EachSubject.Execution.Display

/-!
# Brackets

What stands under an index or a key of a value. An index counts from the end if it is negative; a slice
takes every so many items of a stretch. Lists and dictionaries can be changed under their brackets.
-/

namespace EachSubject.Engine

variable (e : Engine)

/-! ## Indices and slices -/

/-- The whole number that a value stands for where an index is wanted. -/
def indexOf (value : Value) : Run Int := do
  match value.plain with
  | .int _ n => return n
  | .bool b => return b.toInt
  | _ =>
    match ← e.callHook? value "__index__" [] with
    | some (.int _ n) => return n
    | _ => throw .mismatch

/-- The position of an index among so many items. -/
def positionOf (count : Nat) (index : Int) : Run Nat := do
  let position := if index < 0 then index + count else index
  if position < 0 || (count : Int) ≤ position then throw .outOfRange
  return position.toNat

/-- The item at an index. -/
def itemAt {α : Type} (items : List α) (index : Int) : Run α := do
  Run.orFault .outOfRange items[← positionOf items.length index]?

/-- A bound of a slice, kept between the least and the greatest one. -/
def boundOf (count : Nat) (least greatest otherwise : Int) (bound : Value) : Run Int := do
  match bound with
  | .none => return otherwise
  | bound =>
    let n ← e.indexOf bound
    let n := if n < 0 then n + count else n
    return if n < least then least else if greatest < n then greatest else n

/-- The start, the stop and the step of a slice of so many items. -/
def sliceBounds (count : Nat) (start stop step : Value) : Run (Int × Int × Int) := do
  let step ← match step with
    | .none => pure 1
    | step => e.indexOf step
  if step = 0 then throw (.badValue "slice step cannot be zero")
  if 0 < step then
    return (← e.boundOf count 0 count 0 start, ← e.boundOf count 0 count count stop, step)
  else
    return (← e.boundOf count (-1) (count - 1) (count - 1) start,
      ← e.boundOf count (-1) (count - 1) (-1) stop, step)

/-- The positions of a slice of so many items. -/
def slicePositions (count : Nat) (start stop step : Value) : Run (List Nat) := do
  let (start, stop, step) ← e.sliceBounds count start stop step
  return (Value.rangeItems start stop step).map Int.toNat

/-- The items of a slice. -/
def sliceOf {α : Type} (items : List α) (start stop step : Value) : Run (List α) := do
  let positions ← e.slicePositions items.length start stop step
  let items := items.toArray
  return positions.filterMap fun i => items[i]?

/-! ## Reading -/

/-- The entry of a dictionary under a key. -/
def entry? (entries : List (Value × Value)) (key : Value) : Run (Option Value) := do
  if !key.isHashable then throw .mismatch
  return (entries.find? fun entry => Value.matchesItem key entry.1).map (·.2)

/-- What stands between the brackets behind a type. -/
def bracketed (index : Value) : List Value := Hint.bracketed index

/-- What stands under the brackets of a value. -/
def getItem (object index : Value) : Run Value := do
  match object with
  | .reference .. =>
    match ← e.callHook? object "__getitem__" [index] with
    | some value => return value
    | none => throw .mismatch
  | .class owner false =>
    match ← member? owner "__class_getitem__" with
    | some (_, found) =>
      match ← boundToClass owner found with
      | .bound receiver f => e.callFunction f { positional := [receiver, index] }
      | f =>
        if isFunction f then e.callFunction f { positional := [.ofClass owner, index] }
        else Run.lift ((← Run.world).subscript object (bracketed index))
    | none => Run.lift ((← Run.world).subscript object (bracketed index))
  | object =>
    match (← Run.current object).plain, index with
    | .list _ items, .slice _ a b c => Run.newList (← e.sliceOf items a b c)
    | .list _ items, index => itemAt items (← e.indexOf index)
    | .tuple place items, .slice _ a b c =>
      let found ← e.sliceOf items a b c
      if found.length = items.length && (c matches .none) then return .tuple place items
      else Run.newTuple found
    | .tuple _ items, index => itemAt items (← e.indexOf index)
    | .text place text, .slice _ a b c =>
      let found := String.ofList (← e.sliceOf text.toList a b c)
      if found = text then return .text place text else Run.newText found
    | .text _ text, index => Run.newText (← itemAt text.toList (← e.indexOf index)).toString
    | .bytes _ bytes, .slice _ a b c => Run.newBytes (← e.sliceOf bytes a b c)
    | .bytes _ bytes, index => Run.newInt ((← itemAt bytes (← e.indexOf index)).toNat : Int)
    | .range _ start stop step, .slice _ a b c =>
      let count := Value.rangeLength start stop step
      let (first, last, by_) ← e.sliceBounds count a b c
      return .range (← Run.freshPlace) (start + first * step) (start + last * step) (step * by_)
    | .range _ start stop step, index =>
      let position ← positionOf (Value.rangeLength start stop step) (← e.indexOf index)
      Run.newInt (start + position * step)
    | .dict _ entries, key => Run.orFault .missingKey (← entry? entries key)
    | object, index => Run.lift ((← Run.world).subscript object (bracketed index))

/-! ## Changing -/

/-- A list with other items in place of those of a slice. -/
def withSlice (items found : List Value) (start stop step : Value) : Run (List Value) := do
  let (first, last, by_) ← e.sliceBounds items.length start stop step
  if by_ = 1 then
    let last := max first last
    return items.take first.toNat ++ found ++ items.drop last.toNat
  else
    let positions := (Value.rangeItems first last by_).map Int.toNat
    if positions.length != found.length then
      throw (.badValue "attempt to assign sequence to extended slice")
    return (positions.zip found).foldl (fun items (i, value) => items.set i value) items

/-- Sets what stands under the brackets of a value. -/
def setItem (object index value : Value) : Run Unit := do
  match object with
  | .reference .. =>
    match ← e.callHook? object "__setitem__" [index, value] with
    | some _ => return
    | none => throw .mismatch
  | object =>
    match ← Run.current object, index with
    | .list place items, .slice _ a b c =>
      let found ← e.items value
      Run.revise (.list place (← e.withSlice items found a b c))
    | .list place items, index =>
      let position ← positionOf items.length (← e.indexOf index)
      Run.revise (.list place (items.set position value))
    | .dict place entries, key =>
      if !key.isHashable then throw .mismatch
      Run.revise (.dict place (Value.distinctEntries (entries ++ [(key, value)])))
    | _, _ => throw .mismatch

/-- Removes what stands under the brackets of a value. -/
def deleteItem (object index : Value) : Run Unit := do
  match object with
  | .reference .. =>
    match ← e.callHook? object "__delitem__" [index] with
    | some _ => return
    | none => throw .mismatch
  | object =>
    match ← Run.current object, index with
    | .list place items, .slice _ a b c =>
      let positions ← e.slicePositions items.length a b c
      let left := (items.zipIdx.filter fun (_, i) => !positions.contains i).map (·.1)
      Run.revise (.list place left)
    | .list place items, index =>
      let position ← positionOf items.length (← e.indexOf index)
      Run.revise (.list place (items.eraseIdx position))
    | .dict place entries, key =>
      if (← entry? entries key).isNone then throw .missingKey
      Run.revise (.dict place (entries.filter fun entry => !Value.matchesItem key entry.1))
    | _, _ => throw .mismatch

end EachSubject.Engine
