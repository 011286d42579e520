import EachSubject.Execution.Construction

/-!
# Making and calling values

Calling a class makes an object: the class or one above it may have a function that makes it, and the
first constructor above then sets it up. Enumerations give the member of a value, records take their
fields, and classes of the language convert values. Other values can be called if they are functions, or
if their class has a function for calls.
-/

namespace EachSubject.Engine

variable (e : Engine)

/-! ## Setting up -/

/-- The fields of a record from the arguments of a call. -/
def fillFields (fields : List Field) (call : Call) : Run (List (String × Value)) := do
  let parameters := fields.map fun f => ({ name := f.name, default := f.default } : FunctionParameter)
  let arguments ← Run.orFault .mismatch (call.bind? parameters)
  return arguments.filterMap fun (name, argument) =>
    match argument with
    | .one value => some (name, value)
    | _ => none

/-- Runs a constructor that gives nothing. -/
def runConstructor (constructor object : Value) (call : Call) : Run Unit := do
  let result ← match constructor with
    | .wrapping .static f => e.callFunction f call
    | .wrapping _ f => e.callFunction f (withReceiver object call)
    | .descriptor _ name => e.languageMethod object name call
    | f => e.callFunction f (withReceiver object call)
  if !Value.isSame result .none then throw .mismatch

/-- Runs the first constructor in a list of classes on a new object. A class of records takes its
    fields; the root of all classes takes no arguments. -/
def construct (object : Value) (call : Call) : List ClassName → Run Unit
  | [] => do
    if !call.positional.isEmpty || !call.keywords.isEmpty then throw .mismatch
  | owner :: rest => do
    match (← Run.world).class? owner with
    | some c =>
      match c.member? "__init__", c.kind with
      | some member, _ => e.runConstructor (rawMember owner "__init__" member) object call
      | none, .record fields =>
        let values ← fillFields fields call
        match object with
        | .reference id _ => Run.setEntity id (.object values)
        | _ => throw .mismatch
      | none, _ => construct object call rest
    | none => construct object call rest

/-- Some class above has objects of its own making. -/
def isOpaque (w : World) (owner : ClassName) : Bool :=
  (w.orderOf owner).any fun above =>
    (above.module == ClassName.builtinModule && above != objectClass) ||
    above.module == "collections" || above.module == "re"

/-- The class has no objects of its own. -/
def isObjectless (w : World) (owner : ClassName) : Bool :=
  w.isAbstract owner || owner == Value.anyClass || owner == reporterClass ||
    owner == Library.annotatedClass

/-! ## Making -/

/-- The names of a failure's parts, as its class declares them. -/
def failureParameters : List FunctionParameter :=
  [{ name := "message", mode := .keywordOnly }, maybeKeyword "subject_name" .none,
   { name := "more", mode := .extraKeyword }]

/-- The member of an enumeration that has a value. -/
def memberFor (owner : ClassName) (members : List (String × Value)) (call : Call) : Run Value := do
  match call.positional, call.keywords with
  | [value], [] =>
    match value with
    | .member own name plain mixed =>
      if own = owner then return .member own name plain mixed
    | _ => pure ()
    match members.find? fun m => Value.matchesItem m.2 value.plain with
    | some (own, _) =>
      Run.orFault .mismatch (((← Run.world).class? owner).bind (World.memberOf? · own))
    | none => throw (.badValue "not a valid member")
  | _, _ => throw .mismatch

/-- Makes a class from its name, its bases and its members. -/
def makeClass (name : ClassName) (bases : List Value) (members : List (String × Value)) :
    Run Value := do
  let w ← Run.world
  let declaration : ClassDeclaration :=
    { name, kind := .ordinary, bases, members := members.map fun m => (m.1, .value m.2) }
  let info ← Run.lift (w.classFor declaration)
  modify fun store => { store with world := w.withClass info }
  match ← memberIn? "__init_subclass__" (info.order.drop 1) with
  | some (_, found) =>
    match found with
    | .wrapping _ (.descriptor ..) => pure ()
    | .wrapping .static f => discard <| e.callFunction f {}
    | .wrapping _ f => discard <| e.callFunction f { positional := [info.value] }
    | f => discard <| e.callFunction f { positional := [info.value] }
  | none => pure ()
  return info.value

/-- What calling the class of classes gives: the class of a value, or a new class. -/
def makeType (call : Call) : Run Value := do
  match ← Run.currentAll call.positional, call.keywords with
  | [value], [] => return (← Run.world).classValue ((← Run.world).classOf value)
  | [name, bases, members], [] =>
    let name := String.ofList (← charsOf name)
    match bases, members with
    | .tuple _ bases, .dict _ entries =>
      let members ← entries.mapM fun (key, value) => do
        return (String.ofList (← charsOf key), value)
      let module := match members.lookup "__module__" with
        | some (.text _ module) => module
        | _ => ClassName.builtinModule
      e.makeClass ⟨module, name⟩ bases members
    | _, _ => throw .mismatch
  | _, _ => throw .mismatch

/-- Makes an object of a class, unless the class has a function of its own for that. -/
def makeObject (name : ClassName) (call : Call) : Run Value := do
  let w ← Run.world
  match w.kindOf? name with
  | some (.enumeration members _) => memberFor name members call
  | some (.record fields) =>
    if name = failureClass then
      match ← taken failureParameters call with
      | [message, named, _] =>
        return .record (← Run.freshPlace) name [("message", message), ("subject_name", named)]
      | _ => throw .mismatch
    else return .record (← Run.freshPlace) name (← fillFields fields call)
  | _ =>
    if name = .builtin "type" then e.makeType call
    else if name.module = ClassName.builtinModule then e.makeBuiltin name.path call
    else if w.isSubclass name baseErrorClass then makeError name call
    else if isOpaque w name || isObjectless w name then throw .mismatch
    else
      let object := .reference (← Run.allocate (.object [])) name
      e.construct object call (w.orderOf name)
      return object

/-- Makes an object of a class. -/
def instantiate (name : ClassName) (call : Call) : Run Value := do
  let w ← Run.world
  let call := { call with positional := ← Run.currentAll call.positional }
  match ← member? name "__new__" with
  | some (_, .builtin _) => e.makeObject name call
  | none => e.makeObject name call
  | some (_, found) =>
    let f := match found with
      | .wrapping _ f => f
      | f => f
    let object ← e.callFunction f (withReceiver (w.classValue name) call)
    if (← Run.world).isSubclass ((← Run.world).classOf object) name then
      match object with
      | .reference .. => e.construct object call (w.orderOf name)
      | _ => pure ()
    return object

/-- What making an object of a class, without setting it up, gives. -/
def makeBare (call : Call) : Run Value := do
  match call.positional with
  | .class name _ :: rest =>
    let w ← Run.world
    if name.module = ClassName.builtinModule || isOpaque w name || (w.kindOf? name matches
        some (.enumeration ..)) then
      e.makeObject name { call with positional := rest }
    else if isObjectless w name then throw .mismatch
    else return .reference (← Run.allocate (.object [])) name
  | _ => throw .mismatch

end EachSubject.Engine
