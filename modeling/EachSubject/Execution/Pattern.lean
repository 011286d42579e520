import EachSubject.Execution.Expression

/-!
# Matching values

A value matches a pattern if it equals a constant, has the items or the entries that the pattern asks
for, or is an instance of a class with attributes that match. The names in the pattern get the parts of
the value once all of it has matched.
-/

namespace EachSubject.Engine

variable (e : Engine)

/-- What the names of a pattern get. -/
abbrev Captures := List (String × Value)

/-- A name gets a value, if there is a name. -/
def captured (name : Option String) (value : Value) : Captures := (name.map fun n => (n, value)).toList

/-- The items of a value that patterns for rows of items look into. -/
def rowItems? (value : Value) : Run (Option (List Value)) := do
  match (← Run.current value).plain with
  | .list _ items => return some items
  | .tuple _ items => return some items
  | .range .. => dataItems? value
  | _ => return none

/-- The entries of a value that patterns for mappings look into. -/
def mappingEntries? (value : Value) : Run (Option (List (Value × Value))) := do
  match (← Run.current value).plain with
  | .dict _ entries => return some entries
  | _ => return none

/-- Classes whose values match a single pattern by themselves. -/
def selfMatching : List String :=
  ["bool", "bytearray", "bytes", "dict", "float", "frozenset", "int", "list", "set", "str", "tuple"]

/-- The attributes that patterns by place stand for; nothing if the value stands for itself. -/
def placeNames? (owner : ClassName) (count : Nat) : Run (Option (List String)) := do
  if owner.module = ClassName.builtinModule && selfMatching.contains owner.path && count = 1 then
    return none
  match ← member? owner "__match_args__" with
  | some (_, .tuple _ names) =>
    if names.length < count then throw .mismatch
    return some (← names.mapM fun name => do return String.ofList (← charsOf name))
  | some _ => throw .mismatch
  | none => if count = 0 then return some [] else throw .mismatch

/-- An attribute, if there is one. -/
def attribute? (value : Value) (name : String) : Run (Option Value) :=
  tryCatch (do return some (← e.getAttribute value name)) fun fault =>
    if fault.errorClass == Fault.missingAttribute.errorClass then pure none else throw fault

/-- Is a constant of which there is only one. -/
def isUnique : Source.Expr → Bool
  | .literal .none => true
  | .literal (.bool _) => true
  | _ => false

mutual

/-- What the names of a pattern get, if the value matches. -/
def matchPattern (f : Frame) : Source.Pattern → Value → Run (Option Captures)
  | .literal constant, value => do
    let wanted ← e.evaluate f constant
    let found ← if isUnique constant then pure (wanted.isSame value)
      else e.isTrue (← e.equality value wanted)
    return if found then some [] else none
  | .value of, value => do
    let wanted ← e.evaluate f of
    return if ← e.isTrue (← e.equality value wanted) then some [] else none
  | .capture name, value => return some (captured name value)
  | .star _, _ => return none
  | .named pattern name, value => do
    return (← matchPattern f pattern value).map (· ++ [(name, value)])
  | .alternatives patterns, value => matchFirst f patterns value
  | .sequence patterns, value => do
    match ← rowItems? value with
    | some items =>
      let hasStar := patterns.any Source.Pattern.isStar
      let fits := if hasStar then patterns.length ≤ items.length + 1
        else patterns.length == items.length
      if fits then matchRow f patterns items else return none
    | none => return none
  | .mapping entries rest, value => do
    match ← mappingEntries? value with
    | some found =>
      match ← matchEntries f entries found with
      | some (captures, left) =>
        match rest with
        | some name => return some (captures ++ [(name, .dict (← Run.freshPlace) left)])
        | none => return some captures
      | none => return none
    | none => return none
  | .ofClass cls positional keywords, value => do
    let cls ← e.evaluate f cls
    match cls with
    | .class owner _ =>
      if !(← Run.orFault .mismatch (Check.isInstance? (← Run.world) value cls)) then return none
      match ← placeNames? owner positional.length with
      | none => matchEach f positional [value]
      | some names =>
        match ← matchAttributes f positional names value with
        | none => return none
        | some captures =>
          return (← matchKeywords f keywords value).map (captures ++ ·)
    | _ => throw .mismatch

/-- The first alternative that matches. -/
def matchFirst (f : Frame) : List Source.Pattern → Value → Run (Option Captures)
  | [], _ => return none
  | pattern :: rest, value => do
    match ← matchPattern f pattern value with
    | some captures => return some captures
    | none => matchFirst f rest value

/-- Patterns and values side by side. -/
def matchEach (f : Frame) : List Source.Pattern → List Value → Run (Option Captures)
  | pattern :: rest, value :: values => do
    match ← matchPattern f pattern value with
    | some captures => return (← matchEach f rest values).map (captures ++ ·)
    | none => return none
  | _, _ => return some []

/-- Patterns for a row of items, of which one may stand for several. -/
def matchRow (f : Frame) : List Source.Pattern → List Value → Run (Option Captures)
  | [], _ => return some []
  | .star name :: rest, items => do
    let count := items.length - rest.length
    let found ← Run.newList (items.take count)
    return (← matchRow f rest (items.drop count)).map (captured name found ++ ·)
  | pattern :: rest, item :: items => do
    match ← matchPattern f pattern item with
    | some captures => return (← matchRow f rest items).map (captures ++ ·)
    | none => return none
  | _ :: _, [] => return none

/-- Patterns for the entries of a mapping; also gives the entries that are left over. -/
def matchEntries (f : Frame) : List (Source.Expr × Source.Pattern) → List (Value × Value) →
    Run (Option (Captures × List (Value × Value)))
  | [], left => return some ([], left)
  | (key, pattern) :: rest, found => do
    let key ← e.evaluate f key
    match ← entry? found key with
    | none => return none
    | some value =>
      match ← matchPattern f pattern value with
      | none => return none
      | some captures =>
        let left := found.filter fun entry => !Value.matchesItem key entry.1
        return (← matchEntries f rest left).map fun (others, left) => (captures ++ others, left)

/-- Patterns for attributes by place. -/
def matchAttributes (f : Frame) : List Source.Pattern → List String → Value → Run (Option Captures)
  | pattern :: rest, name :: names, value => do
    match ← e.attribute? value name with
    | none => return none
    | some found =>
      match ← matchPattern f pattern found with
      | none => return none
      | some captures => return (← matchAttributes f rest names value).map (captures ++ ·)
  | _, _, _ => return some []

/-- Patterns for attributes by name. -/
def matchKeywords (f : Frame) : List (String × Source.Pattern) → Value → Run (Option Captures)
  | [], _ => return some []
  | (name, pattern) :: rest, value => do
    match ← e.attribute? value (f.inside name) with
    | none => return none
    | some found =>
      match ← matchPattern f pattern found with
      | none => return none
      | some captures => return (← matchKeywords f rest value).map (captures ++ ·)

end

end EachSubject.Engine
