import EachSubject.Fault
import EachSubject.Library.Typing
import EachSubject.Source.Parser.Statement
import EachSubject.Source.Scope
import EachSubject.Value.Equality

/-!
# Making declared types

Unions are flat and hold every member once, in the order of first appearance; a union of one member
is that member. Literals drop repetitions of the same value and kind. Annotated types do not nest. In
the types of the typing library a text stands for a type that is looked up later, and nothing stands
for its class. A type is refused if it has the wrong number of parts, or a part that is no type.
-/

namespace EachSubject.Hint

open Value hiding none

/-! ## Parts -/

/-- Drops the values that are equal to an earlier one. -/
def dropRepeated (same : Value → Value → Bool) (seen : List Value) : List Value → List Value
  | [] => seen.reverse
  | value :: rest =>
    if seen.any (same value) then dropRepeated same seen rest
    else dropRepeated same (value :: seen) rest

/-- The expression that a text stands for where a type belongs. A starred one spreads its items, of
    which there has to be one. -/
def readText (text : String) : Except Fault Source.Expr := do
  if text.isEmpty then throw .outOfRange
  if text.contains Source.nulCharacter then throw .nulCharacter
  let text := if text.toList.head? = some '*' then "(" ++ text ++ ",)[0]" else text
  match Source.parseExpression? text with
  | some e => if e.isSound then return e else throw .malformed
  | none => throw .malformed

/-- A type given by its text, which is looked up later. -/
def forwardOf (text : String) : Except Fault Value :=
  (readText text).map fun _ => .forward text

/-- Nothing stands for its class, a text for a type that is looked up later. -/
def convert (value : Value) : Except Fault Value :=
  match value, textOf? value with
  | .none, _ => .ok (.ofClass noneClass)
  | _, some written => forwardOf written
  | value, Option.none => .ok value

/-- Special forms that are types by themselves. -/
def standaloneForms : List String := ["LiteralString", "NoReturn", "Never", "Self", "TypeAlias"]

/-- Special forms that may not stand inside another type, even with arguments. -/
def outerForms : List String := ["ClassVar", "Final"]

/-- The classes that are no types by themselves. -/
def markerClasses : List ClassName := [genericClass, Library.protocolClass]

/-- A converted value can be a type. `outer` tells that the place allows the forms that may not stand
    inside another type. -/
def isType (outer : Bool) : Value → Bool
  | .subscripted (.special name) _ => outer || !outerForms.contains name
  | .subscripted (.userClass name) _ => !markerClasses.contains name
  | .special name => standaloneForms.contains name || (outer && outerForms.contains name)
  | .class name _ => !markerClasses.contains name
  | .tuple .. => false
  | _ => true

/-- A value where a type belongs: converted, or refused if it cannot be a type. -/
def checked (outer : Bool) (value : Value) : Except Fault Value := do
  let value ← convert value
  if isType outer value then return value else throw .mismatch

/-- All values as types. -/
def checkedAll (values : List Value) : Except Fault (List Value) := values.mapM (checked false)

/-! ## Unions -/

/-- Members of a union inside a union count as members of the outer one. -/
def flattenUnion (members : List Value) : List Value :=
  members.flatMap fun
    | .union _ inner => inner
    | other => [other]

/-- A union of the members, which are already types. -/
def unionOf (style : UnionStyle) (members : List Value) : Value :=
  match dropRepeated matchesItem [] (flattenUnion members) with
  | [only] => only
  | several => .union style several

/-- A union written with brackets, of at least one member. -/
def union (members : List Value) : Except Fault Value := do
  if members.isEmpty then throw .mismatch
  let members ← checkedAll members
  if !(flattenUnion members).all isHashable then throw .mismatch
  return unionOf .subscript members

/-- Takes part in a union that the language itself makes. -/
def isNativeOperand : Value → Bool
  | .none => true
  | .class .. => true
  | .subscripted (.native _) _ => true
  | .union .bar _ => true
  | _ => false

/-- Takes part in a union that the typing library makes. -/
def isLibraryOperand : Value → Bool
  | .typeVar .. => true
  | .paramSpec _ => true
  | .special _ => true
  | .classAlias .. => true
  | .subscripted (.native _) _ => false
  | .subscripted .. => true
  | .union .subscript _ => true
  | .literalType _ => true
  | .annotated .. => true
  | .newType .. => true
  | .forward _ => true
  | _ => false

def isNothing : Value → Bool
  | .none => true
  | _ => false

/-- Is a class by itself, or nothing: its unions are the language's own. -/
def bareOperand : Value → Value
  | .none => .ofClass noneClass
  | value => value

/-- A union written with a bar. -/
def bar (left right : Value) : Except Fault Value :=
  if isNativeOperand left && isNativeOperand right then
    if isNothing left && isNothing right then .error .mismatch
    else .ok (unionOf .bar [bareOperand left, bareOperand right])
  else if isLibraryOperand left || isLibraryOperand right then union [left, right]
  else .error .mismatch

/-! ## Literals and metadata -/

/-- A literal type; literals inside it count as values of the outer one. -/
def literalOf (values : List Value) : Value :=
  let flat := values.flatMap fun
    | .literalType inner => inner
    | other => [other]
  if flat.all isHashable then
    .literalType (dropRepeated (fun a b => kindName a == kindName b && matchesItem a b) [] flat)
  else .literalType flat

/-- Comes from a module that it can name: types, functions and all that a class outside the language
    makes. Plain data does not. -/
def namesModule (value : Value) : Bool :=
  match value with
  | .class .. | .function .. | .bound .. | .builtin _ | .method .. | .wrapping .. => true
  | .special _ | .classAlias .. | .forward _ | .typeVar .. | .paramSpec _ | .newType .. => true
  | .subscripted .. | .union .. | .literalType _ | .annotated .. => true
  | .member .. | .record .. | .marker .. => true
  | value => (Value.classOf value).module != "builtins"

/-- A type with metadata behind that which it already has. -/
def annotatedOf (base : Value) (metadata : List Value) : Except Fault Value :=
  match base with
  | .annotated inner before => .ok (.annotated inner (before ++ metadata))
  | base => if namesModule base then .ok (.annotated base metadata) else .error .missingAttribute

/-- A type with at least one piece of metadata. -/
def annotated (base : Value) (metadata : List Value) : Except Fault Value := do
  if metadata.isEmpty then throw .mismatch
  annotatedOf (← checked true base) metadata

/-! ## Brackets -/

/-- What stands between brackets: a tuple stands for its items. -/
def bracketed : Value → List Value
  | .tuple _ items => items
  | value => [value]

/-- One type between brackets, and no more. -/
def single (arguments : List Value) : Except Fault Value :=
  match arguments with
  | [argument] => .ok argument
  | _ => .error .mismatch

/-- Stands for the parameters of a callable as a whole. -/
def isParameterList : Value → Bool
  | .ellipsis => true
  | .list .. => true
  | .paramSpec _ => true
  | .subscripted (.special "Concatenate") _ => true
  | _ => false

/-- The last of the parameters that are put in front of others. -/
def isOpenEnd : Value → Bool
  | .ellipsis => true
  | .paramSpec _ => true
  | _ => false

/-- A special form of the typing library under its brackets. -/
def subscriptSpecial (name : String) (arguments : List Value) : Except Fault Value :=
  match name with
  | "Optional" => do union [← checked false (← single arguments), .none]
  | "Union" => union arguments
  | "Literal" => .ok (literalOf arguments)
  | "Concatenate" =>
    match arguments.getLast? with
    | some last => do
      if !isOpenEnd last then throw .mismatch
      return .subscripted (.special name) ((← checkedAll arguments.dropLast) ++ [last])
    | Option.none => .error .mismatch
  | name =>
    if standaloneForms.contains name then .error .mismatch
    else do
      let outer := name == "Required" || name == "NotRequired"
      return .subscripted (.special name) [← checked outer (← single arguments)]

/-- The parameters of a callable of the typing library. -/
def callableParameters : Value → List Value
  | .list _ items => items
  | .tuple _ items => items
  | value => [value]

/-- A name of the typing library under its brackets. -/
def subscriptAlias (name : String) (origin : ClassName) (arguments : List Value) :
    Except Fault Value := do
  let made (arguments : List Value) : Value := .subscripted (.classAlias name origin) arguments
  if origin = callableClass then
    match arguments with
    | [parameters, result] => do
      let result ← checked false result
      return made ((← (callableParameters parameters).mapM convert) ++ [result])
    | _ => throw .mismatch
  match (Library.aliasOrigin? name).bind (·.2) with
  | some arity =>
    let arguments ← checkedAll arguments
    if arity = 0 || arguments.length != arity then throw .mismatch
    return made arguments
  | Option.none =>
    match arguments.reverse with
    | .ellipsis :: first :: before => return made ((← checkedAll (first :: before).reverse) ++ [.ellipsis])
    | _ => return made (← checkedAll arguments)

/-- The arguments of a callable of the collections library, with its parameters spread out. -/
def spreadCallable (arguments : List Value) : Except Fault (List Value) :=
  match arguments with
  | [.list _ parameters, result] => .ok (parameters ++ [result])
  | [.tuple _ parameters, result] => .ok (parameters ++ [result])
  | [parameters, result] =>
    if isParameterList parameters then .ok [parameters, result] else .error .mismatch
  | _ => .error .mismatch

/-- A class under its brackets: one that the language can subscript itself takes its arguments as
    they are. -/
def subscriptNative (origin : ClassName) (arguments : List Value) : Except Fault Value := do
  if origin = callableClass then
    return .subscripted (.native origin) (← spreadCallable arguments)
  return .subscripted (.native origin) arguments

/-- A type variable, or one for parameters. -/
def isVariable : Value → Bool
  | .typeVar .. => true
  | .paramSpec _ => true
  | _ => false

/-- A list of different type variables. -/
def subscriptMarker (name : ClassName) (arguments : List Value) : Except Fault Value := do
  let arguments ← arguments.mapM convert
  if arguments.isEmpty || !arguments.all isVariable ||
      (dropRepeated isSame [] arguments).length != arguments.length then throw .mismatch
  return .subscripted (.userClass name) arguments

/-- The arguments with the one for a list of parameters packed. All of them make up that list if there
    is no other parameter and none of them is a list. -/
def packParameters (index count : Nat) (arguments : List Value) : Except Fault (List Value) :=
  match arguments[index]?, arguments with
  | Option.none, _ => .error .mismatch
  | some argument, first :: _ =>
    if count = 1 && !(isParameterList first || (match first with | .tuple .. => true | _ => false)) then
      .ok [.tuple 0 arguments]
    else
      match argument with
      | .list _ items => .ok (arguments.set index (.tuple 0 items))
      | _ => .ok arguments
  | some _, [] => .error .mismatch

/-- The arguments with those for lists of parameters packed. -/
def packAll (count : Nat) : Nat → List Value → List Value → Except Fault (List Value)
  | _, [], arguments => .ok arguments
  | index, .paramSpec _ :: rest, arguments => do
    packAll count (index + 1) rest (← packParameters index count arguments)
  | index, _ :: rest, arguments => packAll count (index + 1) rest arguments

/-- A class with type parameters under its brackets, one argument for each. -/
def subscriptUser (origin : ClassName) (parameters arguments : List Value) : Except Fault Value := do
  let arguments ← arguments.mapM convert
  let arguments ← packAll parameters.length 0 parameters arguments
  if parameters.isEmpty || parameters.length != arguments.length then throw .mismatch
  return .subscripted (.userClass origin) arguments

end EachSubject.Hint
