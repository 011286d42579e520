import EachSubject.Description.Default
import EachSubject.Hint.Resolution
import EachSubject.Shape.Basic
import EachSubject.TypeArguments

/-!
# Describing subject classes

`World.describe` finds the shape of a subject class: the target element type that its hierarchy binds,
and every method that lookup along the order of classes finds outside of the root and the base class.
It refuses classes that cannot be imported by name, that leave the target open, or whose declarations
cannot be written down.
-/

namespace EachSubject

namespace Description

/-! ## Which methods -/

/-- A method of a subject, with the class that gives it. -/
structure FoundMethod where
  owner : ClassName
  name : String
  binding : Binding
  isFinal : Bool
  function : Function

/-- Starts and ends with two underscores. -/
def isSpecialName (name : String) : Bool :=
  ['_', '_'].isPrefixOf name.toList && ['_', '_'].isPrefixOf name.toList.reverse

/-- The classes whose members every wrapper inherits. -/
def excludedOwners : List ClassName := [objectClass, subjectClass]

/-- The function behind a member, unless it is a property. -/
def methodOf? (owner : ClassName) (name : String) : Member → Option FoundMethod
  | .function .property _ _ => none
  | .function binding isFinal f => some ⟨owner, name, binding, isFinal, f⟩
  | _ => none

/-- The members of one class that no earlier class hides, with all names seen after it. -/
def freshMembers (seen : List String) : List (String × Member) → List (String × Member) × List String
  | [] => ([], seen)
  | (name, member) :: rest =>
    if seen.contains name then freshMembers seen rest
    else
      let (fresh, seen) := freshMembers (name :: seen) rest
      ((name, member) :: fresh, seen)

/-- The visible methods of the classes in order; a member that is no method hides later ones too. -/
def methodsOf (w : World) (seen : List String) : List ClassName → List FoundMethod
  | [] => []
  | owner :: rest =>
    let members := ((w.class? owner).map (·.members)).getD []
    let (fresh, seen) := freshMembers seen members
    let own := if excludedOwners.contains owner then [] else
      fresh.filterMap fun (name, member) =>
        if isSpecialName name then none else methodOf? owner name member
    own ++ methodsOf w seen rest

/-- The visible methods of a class, those of the most derived class first. -/
def methods (w : World) (name : ClassName) : List FoundMethod := methodsOf w [] (w.orderOf name)

/-- The name is one that its class keeps to itself: an underscore, the class's name without its
    leading underscores, and two underscores. -/
def isPrivateName (owner : ClassName) (name : String) : Bool :=
  ('_' :: owner.simple.toList.dropWhile (· == '_') ++ ['_', '_']).isPrefixOf name.toList

/-! ## One method -/

/-- The kind of a parameter's mode. -/
def kindOf : ParameterMode → ParameterKind
  | .positionalOnly => .positional
  | .positional => .positional
  | .extraPositional => .extraPositional
  | .keywordOnly => .keywordOnly
  | .extraKeyword => .extraKeyword

/-- The parameters without the first one, which takes the object, if that is passed by place. -/
def withoutReceiver : List FunctionParameter → List FunctionParameter
  | [] => []
  | p :: rest => if p.mode.isPositional then rest else p :: rest

/-- The parameters of a method that its callers see. -/
def callerParameters (m : FoundMethod) : List FunctionParameter :=
  if m.binding = .static then m.function.parameters else withoutReceiver m.function.parameters

/-- A declared type, with its metadata apart. -/
def typeAndMetadata : Value → Except Fault (String × List String)
  | .annotated base metadata => do
    let typeText ← Hint.format base
    return (typeText, ← Hint.metadataNames metadata)
  | written => do return (← Hint.format written, [])

/-- The shape of a parameter. -/
def parameterShape (f : Function) (reference : String) (hints : List (String × Value))
    (p : FunctionParameter) : Except Fault ParameterShape := do
  let default ← defaultText f reference p
  let kind := kindOf p.mode
  let keyword := if kind = .keywordOnly then some p.name else none
  match (hints.lookup p.name).or p.hint with
  | some written =>
    let (typeText, annotations) ← typeAndMetadata written
    return { typeText := some typeText, annotations, kind, keyword, default }
  | none => return { typeText := none, annotations := [], kind, keyword, default }

/-- The source text of the declared result. -/
def returnsText (hints : List (String × Value)) : Except Fault (Option String) :=
  match hints.lookup "return" with
  | some written => do return some (← Hint.format written)
  | none => .ok none

/-- The shape of a method, its own troubles not yet put into the words for the class. -/
def bareMethodShape (w : World) (subject : ClassName) (m : FoundMethod) :
    Except Fault MethodShape := do
  let hints ← w.hints m.function
  let returns ← returnsText hints
  let owner ← m.owner.reachable
  let reference := subject.simple ++ "." ++ m.name
  let parameters ← (callerParameters m).mapM (parameterShape m.function reference hints)
  return {
    name := m.name
    owner
    visibility := if ['_'].isPrefixOf m.name.toList then .subclasses else .everyone
    returns
    parameters
    isFinal := m.isFinal
    isPrivate := isPrivateName m.owner m.name
    isStatic := m.binding == .static || m.binding == .onClass
    isAsync := m.function.looksAsync
    isGenerator := m.function.looksGenerator }

/-- Puts what stops the description of a method into the words for its class. A value that has no text
    leaves the method unreadable; any other error of the language stays as it is. -/
def methodFailure (w : World) (subjectName method : String) : Fault → Fault
  | .notDescribed e => .refusal subjectName (.method method e.subject e.cause)
  | fault =>
    if w.isSubclass fault.errorClass (.builtin "ValueError") then
      .refusal subjectName (.unreadable method fault.message)
    else fault

/-- The shape of a method. -/
def methodShape (w : World) (subject : ClassName) (subjectName : String) (m : FoundMethod) :
    Except Fault MethodShape :=
  (bareMethodShape w subject m).mapError (methodFailure w subjectName m.name)

/-! ## The class -/

/-- Puts what stops the target type into the words for its class. -/
def targetFailure (subjectName : String) : Fault → Fault
  | .notDescribed e => .refusal subjectName (.target e.subject e.cause)
  | fault => fault

/-- The target element type that a class binds. -/
def targetText (w : World) (name : ClassName) (subjectName : String) :
    Except Fault String :=
  match w.typeParameter name subjectClass targetIndex with
  | .bound target => (Hint.format target).mapError (targetFailure subjectName)
  | _ => .error (.refusal subjectName .targetUnbound)

/-- What is known of a class before its methods are looked at: its full name and its target. -/
def head (w : World) (subject : Value) : Except Fault (ClassName × String × String) :=
  match w.subjectClass? subject with
  | none => do throw (.refusal (← Hint.shownText subject) .notSubject)
  | some name => do
    let subjectName ← name.reachable
    if !name.isTopLevel then throw (.refusal subjectName .notTopLevel)
    let target ← targetText w name subjectName
    return (name, subjectName, target)

end Description

open Description

/-- The shape of a subject class. -/
def World.describe (w : World) (subject : Value) : Except Fault SubjectShape := do
  let (name, subjectName, target) ← head w subject
  let methods ← (methods w name).mapM (methodShape w name subjectName)
  return { package := name.module, simpleName := name.simple, target, methods }

/-! ## What a description notes on its way -/

/-- A remark for those who follow the work closely. -/
inductive Note where
  /-- The declared types of a function are used as they are written. -/
  | writtenHints (function : String)
  | described (subject target : String) (methods : Nat)
  | built (wrapper : String) (wrapped methods : Nat)
deriving DecidableEq, Repr

/-- The text of a note. -/
def Note.message : Note → String
  | writtenHints function => "Using raw annotations for " ++ function
  | described subject target methods =>
    "Described " ++ subject ++ ": target " ++ target ++ ", " ++ toString methods ++ " method(s)"
  | built wrapper wrapped methods =>
    "Built " ++ wrapper ++ " wrapping " ++ toString wrapped ++ " of " ++ toString methods ++
    " method(s)"

/-- The notes on the methods, up to the first that cannot be described. -/
def methodNotes (w : World) (subject : ClassName) (subjectName : String) :
    List FoundMethod → List Note
  | [] => []
  | m :: rest =>
    let own := if w.keepsWrittenHints m.function then
        [.writtenHints (m.owner.path ++ "." ++ m.name)]
      else []
    match methodShape w subject subjectName m with
    | .ok _ => own ++ methodNotes w subject subjectName rest
    | .error _ => own

/-- The notes of a description. -/
def World.describeNotes (w : World) (subject : Value) : List Note :=
  match head w subject with
  | .error _ => []
  | .ok (name, subjectName, target) =>
    methodNotes w name subjectName (methods w name) ++
    match w.describe subject with
    | .ok shape => [.described subjectName target shape.methods.length]
    | .error _ => []

end EachSubject
