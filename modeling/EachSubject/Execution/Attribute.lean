import EachSubject.Execution.Engine

/-!
# Attributes

How an attribute of a value is found. What a class has under a name decides first if it computes the
attribute: a property, or a plain attribute of the values of the language. The object's own attributes
come next, and then what the class has, of which functions become bound to the object. A class has
attributes of its own and shares those of the classes above it. Objects can take over the search for
their attributes, and their setting.
-/

namespace EachSubject

namespace Engine

variable (e : Engine)

/-! ## Members of classes -/

/-- A member as its class has it. -/
def rawMember (found : ClassName) (name : String) : Member → Value
  | .value value => value
  | .builtin => .builtin "len"
  | .function .onObject _ _ => .function found name
  | .function binding _ _ => .wrapping binding (.function found name)

/-- What the classes in a list have under a name. -/
def memberIn? (name : String) (classes : List ClassName) : Run (Option (ClassName × Value)) := do
  return ((← Run.world).lookupIn name classes).map fun (found, member) =>
    (found, rawMember found name member)

/-- What a class has under a name, itself or from a class above it. -/
def member? (owner : ClassName) (name : String) : Run (Option (ClassName × Value)) := do
  memberIn? name ((← Run.world).orderOf owner)

/-- The function that a value is, or that a member of a class is for its objects. -/
def functionOf? (value : Value) : Run (Option Function) := do
  match value with
  | .function owner name =>
    match ((← Run.world).class? owner).bind (·.member? name) with
    | some (.function _ _ f) => return some f
    | _ => return none
  | .reference id owner =>
    if owner != Value.functionClass then return none
    match ← Run.entity? id with
    | some (.function object) => return some object.function
    | _ => return none
  | _ => return none

/-- Becomes bound to the object that it is found on. -/
def isFunction : Value → Bool
  | .function .. => true
  | .reference _ owner => owner == Value.functionClass
  | _ => false

/-- The call with a receiver in front. -/
def withReceiver (receiver : Value) (call : Call) : Call :=
  { call with positional := receiver :: call.positional }

/-- Calls a function, alone or bound to a receiver. -/
def callFunction (function : Value) (call : Call) : Run Value := do
  match ← functionOf? function with
  | some f => e.run f call
  | none => e.apply function call

/-- The function that the class of a value has under a name, unless it is one of the language. -/
def hook? (value : Value) (name : String) : Run (Option Value) := do
  match value with
  | .reference _ owner =>
    match ← member? owner name with
    | some (_, found) => return if isFunction found then some found else none
    | none => return none
  | _ => return none

/-- Calls what the class of a value has under a name, if that is a function of its own. -/
def callHook? (value : Value) (name : String) (arguments : List Value) : Run (Option Value) := do
  match ← hook? value name with
  | some f => return some (← e.callFunction f { positional := value :: arguments })
  | none => return none

/-! ## Plain attributes -/

/-- The plain attributes of the values of the language. -/
def fieldOf? (value : Value) (name : String) : Run (Option Value) := do
  match value.plain, name with
  | .bool b, "real" => return some (← Run.newInt b.toInt)
  | .bool b, "numerator" => return some (← Run.newInt b.toInt)
  | .bool _, "imag" => return some (← Run.newInt 0)
  | .bool _, "denominator" => return some (← Run.newInt 1)
  | .int place n, "real" => return some (.int place n)
  | .int place n, "numerator" => return some (.int place n)
  | .int .., "imag" => return some (← Run.newInt 0)
  | .int .., "denominator" => return some (← Run.newInt 1)
  | .float place x, "real" => return some (.float place x)
  | .float .., "imag" => return some (← Run.newFloat (.zero false))
  | .complex _ re _, "real" => return some (← Run.newFloat re)
  | .complex _ _ im, "imag" => return some (← Run.newFloat im)
  | .range _ start _ _, "start" => return some (← Run.newInt start)
  | .range _ _ stop _, "stop" => return some (← Run.newInt stop)
  | .range _ _ _ step, "step" => return some (← Run.newInt step)
  | .slice _ start _ _, "start" => return some start
  | .slice _ _ stop _, "stop" => return some stop
  | .slice _ _ _ step, "step" => return some step
  | .error _ _ arguments, "args" => return some (← Run.newTuple arguments)
  | .error _ _ arguments, "value" => return some (arguments.headD .none)
  | .error .., "__cause__" => return some .none
  | .error .., "__context__" => return some .none
  | .error .., "__traceback__" => return some .none
  | .error .., "__suppress_context__" => return some (.bool false)
  | .wrapping .property f, "fget" => return some f
  | .wrapping .property _, "fset" => return some .none
  | .wrapping .property _, "fdel" => return some .none
  | .wrapping _ f, "__func__" => return some f
  | .wrapping _ f, "__wrapped__" => return some f
  | _, _ => return none

/-! ## Functions -/

/-- The declared types of a function, by name. -/
def declaredTypes (f : Function) : List (String × Value) :=
  f.parameters.filterMap (fun p => p.hint.map fun h => (p.name, h)) ++
  (f.returns.map fun h => ("return", h)).toList

/-- A plain attribute of a function. -/
def functionField (path : String) (f : Function) (name : String) : Run (Option Value) := do
  match name with
  | "__defaults__" =>
    if f.storedDefaults.isEmpty then return some .none
    else return some (← Run.newTuple f.storedDefaults)
  | "__kwdefaults__" =>
    if f.storedKeywordDefaults.isEmpty then return some .none
    else return some (← Run.newDict f.storedKeywordDefaults)
  | "__name__" => return some (← Run.newText f.name)
  | "__qualname__" => return some (← Run.newText path)
  | "__module__" => return some (← Run.newText f.module)
  | "__doc__" => return some f.doc
  | "__annotations__" => return some (← Run.newDict (declaredTypes f))
  | "__closure__" => return some .none
  | "__dict__" => return some (← Run.newDict [])
  | _ => return none

/-- How a function is reached from its module. -/
def pathOf (value : Value) (f : Function) : String :=
  match value, f.body with
  | .function owner name, _ => owner.path ++ "." ++ name
  | _, .source code => code.path
  | _, _ => f.name

/-! ## Classes -/

/-- The entries of an enumeration by name. -/
def memberEntries (c : ClassInfo) : Run Value := do
  match c.kind with
  | .enumeration members _ =>
    Run.newDict (members.filterMap fun m => (World.memberOf? c m.1).map fun v => (m.1, v))
  | _ => Run.newDict []

/-- A plain attribute that every class has. -/
def classField (owner : ClassName) (name : String) : Run (Option Value) := do
  let w ← Run.world
  let own : Option Member := (w.class? owner).bind (·.member? name)
  let order := (w.orderOf owner).map w.classValue
  match name with
  | "__name__" => return some (← Run.newText owner.simple)
  | "__qualname__" => return some (← Run.newText owner.path)
  | "__module__" => return some (← Run.newText owner.module)
  | "__mro__" => return some (← Run.newTuple order)
  | "__bases__" =>
    let bases := ((w.class? owner).map (·.bases)).getD []
    let bases := if bases.isEmpty && owner != objectClass then [objectClass] else bases
    return some (← Run.newTuple (bases.map w.classValue))
  | "__base__" =>
    match ((w.class? owner).map (·.bases)).getD [] with
    | [] => return some (if owner = objectClass then .none else .ofClass objectClass)
    | base :: others =>
      let best := (others.filter fun b => (w.solidOf b).isSome && (w.solidOf base).isNone).headD base
      return some (w.classValue best)
  | "__doc__" =>
    match own with
    | some (.value value) => return some value
    | _ => return some .none
  | "__class__" => return some (w.classValue (w.classOfClass owner))
  | "__orig_bases__" =>
    match (w.class? owner).bind (·.writtenBases) with
    | some bases => return some (← Run.newTuple bases)
    | none => return none
  | "__parameters__" =>
    match w.class? owner with
    | some c =>
      if c.order.contains genericClass && owner != genericClass then
        return some (← Run.newTuple c.typeParameters)
      else return none
    | none => return none
  | "__members__" =>
    match w.class? owner with
    | some c => if c.value.isEnumeration then return some (← memberEntries c) else return none
    | none => return none
  | _ => return none

/-- What is found on a class becomes what it gives as an attribute of the class. -/
def boundToClass (owner : ClassName) (found : Value) : Run Value := do
  match found with
  | .wrapping .static f => return f
  | .wrapping .onClass (.descriptor _ name) => return .method ((← Run.world).classValue owner) name
  | .wrapping .onClass f => return .bound ((← Run.world).classValue owner) f
  | found => return found

/-- An attribute of a class. -/
def classAttribute (owner : ClassName) (name : String) : Run Value := do
  let w ← Run.world
  if let some field ← classField owner name then return field
  if let some found := (w.class? owner).bind (World.memberOf? · name) then return found
  if let some (_, found) ← member? owner name then return ← boundToClass owner found
  match ← member? (w.classOfClass owner) name with
  | some (_, .descriptor _ own) => return .method (w.classValue owner) own
  | _ =>
    match ← member? (.builtin "type") name with
    | some (_, .descriptor _ own) => return .method (w.classValue owner) own
    | _ => throw .missingAttribute

/-! ## Types -/

/-- What is written before the brackets of a type, as a value. -/
def headValue (w : World) : TypeHead → Value
  | .native origin => w.classValue origin
  | .userClass origin => w.classValue origin
  | .classAlias _ origin => w.classValue origin
  | .special name => .special name

/-- An attribute of what stands for a type. -/
def typeField (value : Value) (name : String) : Run (Option Value) := do
  let w ← Run.world
  let text (shown : String) : Run (Option Value) := do return some (← Run.newText shown)
  let tuple (items : List Value) : Run (Option Value) := do return some (← Run.newTuple items)
  match value, name with
  | .special own, "__name__" => text own
  | .special own, "__qualname__" => text own
  | .special own, "_name" => text own
  | .special _, "__module__" => text "typing"
  | .classAlias own _, "__name__" => text own
  | .classAlias own _, "__qualname__" => text own
  | .classAlias own _, "_name" => text own
  | .classAlias .., "__module__" => text "typing"
  | .classAlias _ origin, "__origin__" => return some (w.classValue origin)
  | .subscripted head _, "__origin__" => return some (headValue w head)
  | .subscripted _ arguments, "__args__" => tuple arguments
  | .subscripted .., "__parameters__" => tuple (Hint.freeVariables [value])
  | .subscripted (.userClass origin) _, "__name__" => text origin.simple
  | .subscripted (.userClass origin) _, "__qualname__" => text origin.simple
  | .subscripted (.userClass origin) _, "__module__" => text origin.module
  | .subscripted (.classAlias own _) _, "__name__" => text own
  | .subscripted (.classAlias own _) _, "__qualname__" => text own
  | .subscripted (.classAlias ..) _, "__module__" => text "typing"
  | .union .subscript _, "__origin__" => return some (.special "Union")
  | .union .subscript _, "__module__" => text "typing"
  | .union _ members, "__args__" => tuple members
  | .union .., "__parameters__" => tuple (Hint.freeVariables [value])
  | .literalType values, "__args__" => tuple values
  | .literalType _, "__origin__" => return some (.special "Literal")
  | .annotated base _, "__origin__" => return some base
  | .annotated base _, "__args__" => tuple [base]
  | .annotated _ metadata, "__metadata__" => tuple metadata
  | .forward written, "__forward_arg__" => text written
  | .typeVar _ own, "__name__" => text own
  | .paramSpec own, "__name__" => text own
  | .newType _ own, "__name__" => text own
  | .newType _ own, "__qualname__" => text own
  | .newType home _, "__module__" => text home
  | _, _ => return none

/-- The attributes that a class under brackets has itself; any other is that of the class. -/
def bracketFields : List String :=
  ["__class__", "__origin__", "__args__", "__parameters__", "__unpacked__", "__mro_entries__",
   "__reduce_ex__", "__reduce__", "__copy__", "__deepcopy__"]

/-- The class whose attributes a type passes on. -/
def relayed? (name : String) (value : Value) : Option ClassName :=
  let unlessHook (origin : ClassName) : Option ClassName :=
    if Value.isHook name then none else some origin
  match value with
  | .classAlias _ origin => unlessHook origin
  | .subscripted (.userClass origin) _ => unlessHook origin
  | .subscripted (.classAlias _ origin) _ => unlessHook origin
  | .subscripted (.native origin) _ => if bracketFields.contains name then none else some origin
  | _ => none

/-! ## Objects -/

/-- The attributes of its own that a value has. -/
def ownAttributes (value : Value) : Run (List (String × Value)) := do
  match value with
  | .reference id _ => Run.attributes id
  | .record _ _ fields => return fields
  | .member owner own plain _ =>
    return [("_value_", plain), ("_name_", ← Run.newText own), ("value", plain),
      ("name", ← Run.newText own), ("__objclass__", .class owner true)]
  | _ => return []

/-- What is found on the class of an object becomes what it gives as an attribute of the object. -/
def boundTo (object : Value) (owner : ClassName) (name : String) (found : Value) : Run Value := do
  match found with
  | .wrapping .property f => e.callFunction f { positional := [object] }
  | .wrapping .static f => return f
  | .wrapping .onClass (.descriptor _ own) => return .method ((← Run.world).classValue owner) own
  | .wrapping .onClass f => return .bound ((← Run.world).classValue owner) f
  | .descriptor _ own => return .method object own
  | .foreign kind shown =>
    if kind = Library.fieldClass then Run.orFault .missingAttribute (← fieldOf? object name)
    else return .foreign kind shown
  | found => return if isFunction found then .bound object found else found

/-- What is found on a class decides before the own attributes of its objects. -/
def decidesFirst : Value → Bool
  | .wrapping .property _ => true
  | .foreign kind _ => kind == Library.fieldClass
  | _ => false

/-- An attribute that every value has. -/
def commonField (value : Value) (name : String) : Run (Option Value) := do
  let w ← Run.world
  match name with
  | "__class__" => return some (w.classValue (w.classOf value))
  | "__doc__" => return some .none
  | "__module__" =>
    let owner := w.classOf value
    if owner.module = ClassName.builtinModule then return none
    else return some (← Run.newText owner.module)
  | "__dict__" =>
    match value with
    | .reference .. => return some (← Run.newDict (← ownAttributes value))
    | .record .. => return some (← Run.newDict (← ownAttributes value))
    | _ => return none
  | _ => return none

/-- An attribute of an object, by the rules that hold unless its class has rules of its own. -/
def plainAttribute (object : Value) (name : String) : Run Value := do
  let w ← Run.world
  let owner := w.classOf object
  let found ← member? owner name
  match found with
  | some (_, found) =>
    if decidesFirst found then
      return ← e.boundTo object owner name found
  | none => pure ()
  match (← ownAttributes object).lookup name with
  | some value => return value
  | none =>
    match found with
    | some (_, found) => e.boundTo object owner name found
    | none =>
      match object with
      | .member own .. =>
        match (w.class? own).bind (World.memberOf? · name) with
        | some other => return other
        | none => Run.orFault .missingAttribute (← commonField object name)
      | _ => Run.orFault .missingAttribute (← commonField object name)

/-- An attribute of a function. -/
def functionAttribute (function : Value) (name : String) : Run Value := do
  match ← functionOf? function with
  | some f =>
    match (← ownAttributes function).lookup name with
    | some value => return value
    | none =>
      match ← functionField (pathOf function f) f name with
      | some value => return value
      | none => e.plainAttribute function name
  | none => throw .missingAttribute

/-- An attribute of an object, as its class sees an object of the class above another. -/
def attributeAbove (owner : ClassName) (object : Value) (name : String) : Run Value := do
  let w ← Run.world
  let own := match object with
    | .class name _ => name
    | object => w.classOf object
  match ← memberIn? name (((w.orderOf own).dropWhile (· != owner)).drop 1) with
  | some (_, found) =>
    match object with
    | .class .. => boundToClass own found
    | object => e.boundTo object own name found
  | none => throw .missingAttribute

/-- The attribute, or what the class of the value has for attributes that are missing. -/
def orMissing (value : Value) (name : String) (search : Run Value) : Run Value :=
  tryCatch search fun fault => do
    if fault.errorClass != Fault.missingAttribute.errorClass then throw fault
    match ← hook? value "__getattr__" with
    | some f => e.callFunction f { positional := [value, ← Run.newText name] }
    | none => throw fault

/-- An attribute of a value. -/
def getAttribute (value : Value) (name : String) : Run Value := do
  match value with
  | .class owner _ => classAttribute owner name
  | .above owner object => e.attributeAbove owner object name
  | .module module => Run.orFault .missingAttribute ((← Run.world).nameIn? module name)
  | .function .. => e.functionAttribute value name
  | .bound receiver function =>
    if name = "__self__" then return receiver
    else if name = "__func__" then return function
    else if name = "__class__" then return .ofClass (.builtin "method")
    else e.functionAttribute function name
  | .builtin own =>
    if name = "__name__" || name = "__qualname__" then Run.newText own
    else if name = "__module__" then Run.newText ClassName.builtinModule
    else if name = "__self__" then return .module ClassName.builtinModule
    else e.plainAttribute value name
  | .method receiver own =>
    if name = "__name__" then Run.newText own
    else if name = "__qualname__" then Run.newText (receiver.classOf.path ++ "." ++ own)
    else if name = "__self__" then return receiver
    else e.plainAttribute value name
  | .descriptor owner own =>
    if name = "__name__" then Run.newText own
    else if name = "__qualname__" then Run.newText (owner.path ++ "." ++ own)
    else if name = "__objclass__" then return .ofClass owner
    else e.plainAttribute value name
  | .reference _ owner =>
    if owner = Value.functionClass then e.functionAttribute value name
    else
      match ← hook? value "__getattribute__" with
      | some f =>
        e.orMissing value name do
          e.callFunction f { positional := [value, ← Run.newText name] }
      | none => e.orMissing value name (e.plainAttribute value name)
  | value =>
    match ← typeField value name with
    | some field => return field
    | none =>
      match relayed? name value with
      | some origin => classAttribute origin name
      | none =>
        match ← fieldOf? value name with
        | some field => return field
        | none => e.plainAttribute value name

/-! ## Setting -/

/-- The class of the object, or one above it, is a class of records with such a field. -/
def hasRecordField (w : World) (owner : ClassName) (name : String) : Bool :=
  (w.orderOf owner).any fun above =>
    match w.kindOf? above with
    | some (.record fields) => fields.any (·.name == name)
    | _ => false

/-- Sets an attribute of an object; a property of its class and the fields of a record stay. -/
def setPlainAttribute (object : Value) (name : String) (value : Value) : Run Unit := do
  match object with
  | .reference id owner =>
    match ← member? owner name with
    | some (_, .wrapping .property _) => throw .missingAttribute
    | _ =>
      if hasRecordField (← Run.world) owner name then throw .frozen
      else Run.keepAttribute id name value
  | .record .. => throw .frozen
  | _ => throw .missingAttribute

/-- Sets a member of a class. -/
def setMember (owner : ClassName) (name : String) (value : Value) : Run Unit := do
  let w ← Run.world
  if w.classes.any (·.name == owner) then
    modify fun store =>
      { store with world := { w with classes := w.classes.map fun c =>
          if c.name == owner then c.withMember (name, .value value) else c } }
  else throw .mismatch

/-- Sets an attribute of a value. -/
def setAttribute (object : Value) (name : String) (value : Value) : Run Unit := do
  match object with
  | .class owner _ => setMember owner name value
  | object =>
    match ← hook? object "__setattr__" with
    | some f => discard <| e.callFunction f { positional := [object, ← Run.newText name, value] }
    | none => setPlainAttribute object name value

/-- Removes an attribute of an object. -/
def deletePlainAttribute (object : Value) (name : String) : Run Unit := do
  match object with
  | .reference id _ =>
    let own ← Run.attributes id
    if own.any (·.1 == name) then Run.setAttributes id (own.filter (·.1 != name))
    else throw .missingAttribute
  | .record .. => throw .frozen
  | _ => throw .missingAttribute

/-- Removes an attribute of a value. -/
def deleteAttribute (object : Value) (name : String) : Run Unit := do
  match object with
  | .class owner _ =>
    let w ← Run.world
    if w.classes.any fun c => c.name == owner && c.members.any (·.1 == name) then
      modify fun store =>
        { store with world := { w with classes := w.classes.map fun c =>
            if c.name == owner then { c with members := c.members.filter (·.1 != name) } else c } }
    else throw .missingAttribute
  | object =>
    match ← hook? object "__delattr__" with
    | some f => discard <| e.callFunction f { positional := [object, ← Run.newText name] }
    | none => deletePlainAttribute object name

end Engine

end EachSubject
