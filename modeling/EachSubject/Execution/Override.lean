import EachSubject.Execution.Delegation
import EachSubject.Source.Outline

/-!
# Functions of wrapper classes

The functions in a wrapper's source are of two kinds, and each is known by its statements: the
constructor runs the one above it and keeps the factory and the data; an override makes a subject for
each element and calls one method of it. Whatever is written otherwise runs as it is written.
-/

namespace EachSubject.Override

open Source

/-- The parts of a name that is reached through attributes, the first one a plain name. -/
def dotted? : Expr → Option (List String)
  | .name name => some [name]
  | .attribute object name => (dotted? object).map (· ++ [name])
  | _ => none

/-- How the arguments of a call pass parameters on. -/
def forwards? (owner : String) : List Source.Argument → Option (List Forward)
  | [] => some []
  | .positional (.name name) :: rest => do
    return .positional (nameInside owner name) :: (← forwards? owner rest)
  | .spread (.name name) :: rest => do
    return .extraPositional (nameInside owner name) :: (← forwards? owner rest)
  | .keyword word (.name name) :: rest => do
    return .keyword word (nameInside owner name) :: (← forwards? owner rest)
  | .spreadKeywords (.name name) :: rest => do
    return .extraKeyword (nameInside owner name) :: (← forwards? owner rest)
  | _ => none

/-- The delegation that a call of a method of the element's subject makes. -/
def callDelegation? (owner subject : String) (awaits : Bool) : Expr → Option Delegation
  | .call (.attribute (.name object) method) arguments => do
    if object != subject then none
    let forwards ← forwards? owner arguments
    return { method := nameInside owner method, forwards, awaits }
  | _ => none

/-- The delegation that the last statement for each element makes. -/
def statementDelegation? (owner subject : String) : Stmt → Option Delegation
  | .expression (.awaited e) => callDelegation? owner subject true e
  | .expression e => callDelegation? owner subject false e
  | _ => none

/-- Is the call that makes a subject for the element. -/
def makesSubject (item : String) : Expr → Bool
  | .call function [.positional reporter, .positional (.name element)] =>
    dotted? function == some ["self", "_subject_factory", "get_subject"] &&
      dotted? reporter == some ["self", "failure_strategy"] && element == item
  | _ => false

/-- What a forward passes on is received by a parameter of its kind. -/
def fits (parameters : List FunctionParameter) : Forward → Bool
  | .positional name => holdsOne name
  | .extraPositional name => mode? name == some .extraPositional
  | .keyword _ name => holdsOne name
  | .extraKeyword name => mode? name == some .extraKeyword
where
  mode? (name : String) : Option ParameterMode :=
    (parameters.find? (·.name == name)).map (·.mode)
  holdsOne (name : String) : Bool :=
    match mode? name with
    | some mode => mode != .extraPositional && mode != .extraKeyword
    | none => false

/-- The names of the variables differ from each other and from those of the parameters, so that no
    parameter is lost. -/
def keepsParameters (parameters : List FunctionParameter) (item subject : String) : Bool :=
  item != subject && parameters.all fun p => p.name != item && p.name != subject

/-- The delegation that the body of an override makes. -/
def delegation? (owner : String) (parameters : List FunctionParameter) :
    List Stmt → Option Delegation
  | [.annotate (.name item) _ none,
     .for false (.name element) source
       [.annotate (.name subject) _ (some made), last] []] =>
    if element == item && dotted? source == some ["self", "_data"] && makesSubject item made &&
        keepsParameters parameters (nameInside owner item) (nameInside owner subject) then
      (statementDelegation? owner subject last).filter fun d => d.forwards.all (fits parameters)
    else none
  | _ => none

/-- Sets an attribute of the object to a parameter. -/
def keeps (kept parameter : String) : Stmt → Bool
  | .assign [target] (.name name) => dotted? target == some ["self", kept] && name == parameter
  | _ => false

/-- The arguments of the constructor above: the reporter, and no value. -/
def passesReporter : List Source.Argument → Bool
  | [.positional (.name name), .positional (.literal .none)] => name == "failure_strategy"
  | _ => false

/-- The body is that of a wrapper's constructor. -/
def isConstructor : List Stmt → Bool
  | [.expression (.call (.attribute (.call (.name "super") []) "__init__") arguments), factory, data] =>
    passesReporter arguments && keeps "_subject_factory" "subject_factory" factory &&
      keeps "_data" "data" data
  | _ => false

/-- What a function at the top of a class does, if it is a wrapper's constructor or an override. -/
def body? (owner : ClassName) (parameters : List FunctionParameter) (statements : List Stmt) :
    Option Body :=
  let names := parameters.map (·.name)
  if names.head? != some "self" then none
  else if isConstructor statements then
    if names == ["self", "failure_strategy", "subject_factory", "data"] then
      some (.constructWrapper owner)
    else none
  else (delegation? owner.path parameters statements).map .delegate

end EachSubject.Override
