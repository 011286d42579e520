import EachSubject.Hint.Construction
import EachSubject.Library.Subject
import EachSubject.Value.Conversion

/-!
# Worlds

A world is the set of modules and classes that can be reached. Declaring a class computes the classes
above it, its type parameters, and the order in which members are looked up; a declaration that makes
no class is refused. A lookup finds the first class in that order that has a member of the name.
-/

namespace EachSubject

/-- The modules that can be imported, and the classes declared so far, the latest first. -/
structure World where
  modules : List String
  classes : List ClassInfo

namespace World

def empty : World := ⟨[], []⟩

/-- A class of the world or of the library. -/
def class? (w : World) (name : ClassName) : Option ClassInfo :=
  (w.classes.find? (·.name == name)).or (Library.class? name)

/-- What kind of objects a class has. -/
def kindOf? (w : World) (name : ClassName) : Option ClassKind := (w.class? name).map (·.kind)

/-- The class and those above it, in the order of lookup. -/
def orderOf (w : World) (name : ClassName) : List ClassName :=
  match w.class? name with
  | some c => c.order
  | none => [name, objectClass]

/-- The class is the other one or below it. -/
def isSubclass (w : World) (name above : ClassName) : Bool := (w.orderOf name).contains above

/-- The first class in a list that has a member of the name, with that member. -/
def lookupIn (w : World) (name : String) : List ClassName → Option (ClassName × Member)
  | [] => none
  | owner :: rest =>
    match (w.class? owner).bind (·.member? name) with
    | some member => some (owner, member)
    | none => lookupIn w name rest

/-- The member of a name that objects of the class have, with the class that gives it. -/
def lookup (w : World) (owner : ClassName) (name : String) : Option (ClassName × Member) :=
  w.lookupIn name (w.orderOf owner)

/-- A class that leaves a member to the classes below has no objects, and neither has a class below it
    in which that is still the member of the name. -/
def isAbstract (w : World) (name : ClassName) : Bool :=
  (w.orderOf name).any fun above =>
    (((w.class? above).map (·.missing)).getD []).any fun missing =>
      (w.lookup name missing).any (·.1 == above)

/-! ## Members of enumerations -/

/-- A member of an enumeration by its name; a name that repeats a value gives the first member of
    that value. -/
def memberOf? (c : ClassInfo) (name : String) : Option Value :=
  match c.kind with
  | .enumeration members mixin =>
    match members.lookup name with
    | some value =>
      let first := (members.find? fun m => Value.matchesItem m.2 value).getD (name, value)
      some (.member c.name first.1 first.2 mixin.isSome)
    | none => none
  | _ => none

/-- The members of an enumeration, each once. -/
def membersOf (c : ClassInfo) : List Value :=
  match c.kind with
  | .enumeration members _ =>
    Value.distinctItems (members.filterMap fun m => memberOf? c m.1)
  | _ => []

/-! ## Declaring classes -/

/-- Is written with brackets of the typing library, or stands for a class there. -/
def isLibraryGeneric : Value → Bool
  | .subscripted (.native _) _ => false
  | .subscripted .. => true
  | .union .subscript _ => true
  | .literalType _ => true
  | .annotated .. => true
  | .classAlias .. => true
  | _ => false

/-- The base is a class that takes part in the typing library, or is written with its brackets. -/
def isGenericBase (w : World) : Value → Bool
  | .class name _ => w.isSubclass name genericClass
  | base => isLibraryGeneric base

/-- The class is listed among the bases by itself. -/
def listsClass (bases : List Value) (name : ClassName) : Bool :=
  bases.any fun
    | .class other _ => other == name
    | _ => false

/-- The classes that a name of the typing library stands for as a base: its class, and the class of
    generic classes if no base behind it is one. -/
def aliasBases (w : World) (bases : List Value) (name : ClassName) (later : List Value) :
    List ClassName :=
  (if listsClass bases name then [] else [name]) ++
  (if later.any w.isGenericBase then [] else [genericClass])

/-- The classes that a base stands for, given all bases and those behind it. The list of type variables
    counts as a base only if no base of the typing library follows it. -/
def basesOf (w : World) (bases : List Value) (base : Value) (later : List Value) :
    Except Fault (List ClassName) :=
  match base with
  | .class name _ => .ok [name]
  | .subscripted (.userClass name) _ =>
    if name = genericClass && (later.any isLibraryGeneric || listsClass bases Library.protocolClass) then
      .ok []
    else .ok [name]
  | .subscripted (.native name) _ => .ok [name]
  | .subscripted (.classAlias _ name) _ => .ok (w.aliasBases bases name later)
  | .classAlias _ name => .ok (w.aliasBases bases name later)
  | _ => .error .mismatch

/-- The classes that the bases stand for. -/
def basesFrom (w : World) (bases : List Value) : List Value → Except Fault (List ClassName)
  | [] => .ok []
  | base :: later => do
    let first ← w.basesOf bases base later
    return first ++ (← w.basesFrom bases later)

/-- The list of type variables that a base is. -/
def listedVariables? : Value → Option (List Value)
  | .subscripted (.userClass name) args => if name = genericClass then some args else none
  | _ => none

/-- The type parameters of a class: those of a list of type variables among its bases, which has to
    hold them all, or else all type variables of the bases in order of appearance. -/
def typeParametersOf (bases : List Value) : Except Fault (List Value) :=
  let free := Hint.freeVariables bases
  match bases.filterMap listedVariables? with
  | [] => .ok free
  | [args] =>
    let listed := Hint.freeVariables args
    if free.all fun v => listed.any (Value.isSame v) then .ok listed else .error .mismatch
  | _ => .error .mismatch

/-- Some base is written as more than a class. -/
def hasWrittenBases (bases : List Value) : Bool := bases.any fun b => !b.isClass

/-- The innermost class above whose objects have a form of their own. -/
def solidOf (w : World) (name : ClassName) : Option ClassName :=
  (w.orderOf name).find? fun above =>
    above.module == ClassName.builtinModule && Library.solidClasses.contains above.path

/-- The forms of the objects of two classes go together. -/
def fitTogether (w : World) (a b : ClassName) : Bool :=
  match w.solidOf a, w.solidOf b with
  | some x, some y => w.isSubclass x y || w.isSubclass y x
  | _, _ => true

/-- Classes can be made below the class. -/
def isExtensible (w : World) (name : ClassName) : Bool :=
  let isFinal := name.module == ClassName.builtinModule && Library.finalClasses.contains name.path
  match w.kindOf? name with
  | some (.enumeration (_ :: _) _) => false
  | _ => !isFinal && name != Library.annotatedClass

/-- The classes can be the bases of one class. -/
def areCompatible (w : World) (bases : List ClassName) : Bool :=
  bases.all w.isExtensible && bases.all fun a => bases.all fun b => w.fitTogether a b

/-- The class of generic classes is no base by itself. -/
def namesPlainGeneric (bases : List Value) : Bool := listsClass bases genericClass

/-- A default that each record would share and change. -/
def isSharedDefault : Value → Bool
  | .list .. => true
  | .set .. => true
  | .dict .. => true
  | _ => false

/-- The fields of a record: no field without default follows one with a default, and no default can be
    changed. -/
def checkFields (fields : List Field) : Except Fault Unit := do
  if fields.any fun f => f.default.any isSharedDefault then
    throw (.badValue "mutable default for a field is not allowed")
  if (fields.dropWhile (·.default.isNone)).any (·.default.isNone) then throw .mismatch

/-- The kind of a class as it comes to be: mixed members get the value that they are converted to. -/
def kindFor : ClassKind → Except Fault ClassKind
  | .ordinary => .ok .ordinary
  | .record fields => do
    checkFields fields
    return .record fields
  | .enumeration members none => .ok (.enumeration members none)
  | .enumeration members (some base) => do
    let members ← members.mapM fun (name, value) => do return (name, ← Value.mixedWith base value)
    return .enumeration members (some base)

/-- The classes that the classes of a kind have above them besides their bases. -/
def kindBases : ClassKind → List ClassName
  | .enumeration _ (some base) => [base, enumClass]
  | .enumeration _ none => [enumClass]
  | _ => []

/-- The members that classes of a kind have besides those that are declared. -/
def kindMembers : ClassKind → List (String × Member)
  | .record fields =>
    fields.filterMap (fun f => f.default.map fun d => (f.name, .value d)) ++
    [("__match_args__", .value (.tuple 0 (fields.map fun f => .text 0 f.name)))]
  | _ => []

/-- The class that a declaration makes. -/
def classFor (w : World) (d : ClassDeclaration) : Except Fault ClassInfo := do
  let kind ← kindFor d.kind
  if namesPlainGeneric d.bases then throw .mismatch
  let bases := match ← w.basesFrom d.bases d.bases, kindBases kind with
    | [], [] => [objectClass]
    | bases, more => bases ++ more
  if !w.areCompatible bases then throw .mismatch
  let order ← Fault.orElse .mismatch (Linearization.linearize d.name bases (bases.map w.orderOf))
  let typeParameters ← if hasWrittenBases d.bases then typeParametersOf d.bases else pure []
  let plain : ClassInfo := {
    name := d.name
    kind
    bases
    writtenBases := if hasWrittenBases d.bases then some d.bases else none
    typeParameters
    order
    members := kindMembers kind }
  return d.members.foldl ClassInfo.withMember plain

/-- The world with one more class. -/
def withClass (w : World) (c : ClassInfo) : World := { w with classes := c :: w.classes }

/-- Declares a class. -/
def declare (w : World) (d : ClassDeclaration) : Except Fault World := do
  return w.withClass (← w.classFor d)

def addModule (w : World) (name : String) : World := { w with modules := w.modules ++ [name] }

/-! ## Names -/

/-- The class at the top of a module. -/
def topLevel? (w : World) (module name : String) : Option ClassInfo :=
  w.classes.find? fun c => c.name.isTopLevel && c.name.module == module && c.name.path == name

/-- What follows a dotted beginning. -/
def afterDotted? (start text : String) : Option String :=
  let full := start ++ "."
  if full.toList.isPrefixOf text.toList then
    some (String.ofList (text.toList.drop full.length))
  else none

/-- What a full name stands for: a class of the world or of the library, or a name of the typing
    library. -/
def named? (w : World) (name : String) : Option Value :=
  match w.classes.find? (·.name.full == name) with
  | some c => some c.value
  | none =>
    if Library.isBuiltin name then some (.ofClass (.builtin name))
    else
      match afterDotted? "typing" name with
      | some rest => Library.typingName? rest
      | none =>
        match afterDotted? Library.collectionsModule name with
        | some rest => some (.ofClass (Library.collectionClass rest))
        | none =>
          match (afterDotted? Library.subjectModule name).bind fun rest =>
              Library.subjectLibrary.lookup rest with
          | some found => some (.ofClass found)
          | none => (Library.classes.find? (·.1.full == name)).map fun found => .ofClass found.1

/-! ## Classes of values -/

/-- The class of a class. -/
def classOfClass (w : World) (name : ClassName) : ClassName :=
  let order := w.orderOf name
  match w.kindOf? name with
  | some (.enumeration ..) => ⟨"enum", "EnumType"⟩
  | _ =>
    if name = Value.anyClass then ⟨"typing", "_AnyMeta"⟩
    else if order.contains Library.protocolClass then ⟨"typing", "_ProtocolMeta"⟩
    else if name = failureClass then ⟨"pydantic._internal._model_construction", "ModelMetaclass"⟩
    else if order.any fun above => above.module == Library.collectionsModule || above == abstractClass then
      ⟨"abc", "ABCMeta"⟩
    else .builtin "type"

/-- The class of a value. -/
def classOf (w : World) : Value → ClassName
  | .class name _ => w.classOfClass name
  | value => value.classOf

/-- The class as a value. -/
def classValue (w : World) (name : ClassName) : Value :=
  match w.kindOf? name with
  | some (.enumeration ..) => .class name true
  | _ => .ofClass name

/-! ## Brackets -/

/-- A class that the language itself subscripts. -/
def isNativeGeneric (name : ClassName) : Bool :=
  (name.module == ClassName.builtinModule && Library.subscriptableBuiltins.contains name.path) ||
  Library.subscriptableCollections.contains name

/-- The class through which a class can be subscripted. -/
def genericAncestor? (w : World) (name : ClassName) : Option ClassName :=
  (w.orderOf name).find? fun above => isNativeGeneric above || above == genericClass

/-- A class under brackets. The class of classes does not pass its brackets on. -/
def subscriptClass (w : World) (name : ClassName) (arguments : List Value) : Except Fault Value :=
  if name = Library.annotatedClass then
    match arguments with
    | base :: metadata => Hint.annotated base metadata
    | [] => .error .mismatch
  else if Hint.markerClasses.contains name then Hint.subscriptMarker name arguments
  else
    match w.genericAncestor? name with
    | some above =>
      if above = genericClass then
        Hint.subscriptUser name (((w.class? name).map (·.typeParameters)).getD []) arguments
      else if above = .builtin "type" && name != above then .error .mismatch
      else Hint.subscriptNative name arguments
    | none => .error .mismatch

/-- Takes what a name stands for under brackets. -/
def subscript (w : World) (head : Value) (arguments : List Value) : Except Fault Value :=
  match head, arguments with
  | .class name true, [.text _ key] => Fault.orElse .missingKey ((w.class? name).bind (memberOf? · key))
  | .class _ true, [key] => .error (if key.isHashable then .missingKey else .mismatch)
  | .class _ true, _ => .error .missingKey
  | .class name false, arguments => w.subscriptClass name arguments
  | .classAlias name origin, arguments => Hint.subscriptAlias name origin arguments
  | .special name, arguments => Hint.subscriptSpecial name arguments
  | _, _ => .error .mismatch

end World

end EachSubject
