import EachSubject.Eligibility
import EachSubject.Source.Parser.Statement
import EachSubject.Text.Identifier
import EachSubject.Text.Quoted
import EachSubject.Wrapper.Printer

/-!
# From shapes to wrapper modules

`emit` names the parameters of every eligible method, checks that they form a declarable list, prints
the module and makes sure that the text parses. A shape that cannot be written is refused with the
first cause found: the package, the class name, then each method in order.
-/

namespace EachSubject

/-! ## Causes -/

/-- Why a shape cannot be written as a wrapper. -/
inductive EmissionCause where
  | packageNotPath (package : String)
  | simpleNameNotIdentifier (name : String)
  | methodNameNotIdentifier
  | annotationsWithoutType (index : Nat)
  | keywordNotIdentifier (index : Nat) (keyword : Option String)
  | variadicDefault (index : Nat)
  | outOfOrder (index : Nat) (kind : ParameterKind)
  | defaultMissing (index : Nat)
  /-- The names that clash, in order. -/
  | namesClash (names : List String)
  | doesNotParse
deriving DecidableEq, Repr

def EmissionCause.message : EmissionCause → String
  | packageNotPath package => "package " ++ Text.quoted package ++ " is not a dotted module path"
  | simpleNameNotIdentifier name => "simple name " ++ Text.quoted name ++ " is not an identifier"
  | methodNameNotIdentifier => "method name is not an identifier"
  | annotationsWithoutType index => "parameter " ++ toString index ++ " has annotations but no type"
  | keywordNotIdentifier index keyword =>
    "keyword-only parameter " ++ toString index ++ " needs an identifier keyword, got " ++
    (match keyword with
      | some keyword => Text.quoted keyword
      | none => "None")
  | variadicDefault index => "variadic parameter " ++ toString index ++ " cannot have a default"
  | outOfOrder index kind => "parameter " ++ toString index ++ " (" ++ kind.word ++ ") is out of order"
  | defaultMissing index =>
    "parameter " ++ toString index ++ " has no default but follows a parameter with one"
  | namesClash names => "parameter names clash: " ++ ", ".intercalate names
  | doesNotParse => "generated source does not parse"

/-- The refusal of a shape: the subject, the method at fault if one is, and the cause. -/
structure EmissionError where
  subject : String
  method : Option String
  cause : EmissionCause
deriving DecidableEq, Repr

/-- The place at fault: the method of the subject, or the subject if the method has no name. -/
def EmissionError.location (e : EmissionError) : String :=
  match e.method with
  | some method => if method.isEmpty then e.subject else e.subject ++ "." ++ method
  | none => e.subject

def EmissionError.message (e : EmissionError) : String :=
  "Cannot emit wrapper for " ++ e.location ++ ": " ++ e.cause.message

/-- What stops an emission. -/
inductive EmissionFailure where
  | refused (error : EmissionError)
  /-- The text of the module holds the NUL character, so that it cannot be read at all. -/
  | nulCharacter
deriving DecidableEq, Repr

/-! ## Names -/

/-- The first of the candidates that is not taken; among one more candidates than taken names there
    is one, if the candidates differ. -/
def firstFree (candidate : Nat → String) (taken : List String) : String :=
  candidate (((List.range (taken.length + 1)).find? fun k => !taken.contains (candidate k)).getD 0)

/-- `arg` with the index, and underscores behind it. -/
def argumentName (index underscores : Nat) : String :=
  "arg" ++ toString index ++ String.ofList (List.replicate underscores '_')

/-- The base name itself, then with the numbers from one on behind it. -/
def localName (base : String) : Nat → String
  | 0 => base
  | k + 1 => base ++ "_" ++ toString (k + 1)

/-- A local variable named after its base, clear of the taken names. -/
def freeLocal (base : String) (taken : List String) : String := firstFree (localName base) taken

/-- The keywords of the keyword-only parameters. -/
def MethodShape.keywords (m : MethodShape) : List String :=
  m.parameters.filterMap fun p => if p.kind = .keywordOnly then p.keyword else none

/-- Names that every override binds itself. -/
def boundNames : List String := ["self"]

/-! ## Checks -/

namespace MethodShape

/-- The name of a parameter: a keyword-only one keeps its keyword, which has to be a name; any other
    is called after its index. -/
def parameterName (keywords : List String) (index : Nat) (p : ParameterShape) :
    Except EmissionCause String :=
  if p.kind = .keywordOnly then
    match p.keyword.filter Text.isName with
    | some keyword => .ok keyword
    | none => .error (.keywordNotIdentifier index p.keyword)
  else .ok (firstFree (argumentName index) keywords)

/-- Names a parameter and checks what it declares. -/
def parameter (keywords : List String) (index : Nat) (p : ParameterShape) :
    Except EmissionCause Wrapper.Parameter := do
  if !p.annotations.isEmpty && p.typeText.isNone then
    throw (.annotationsWithoutType index)
  let name ← parameterName keywords index p
  if p.default.isSome && p.kind.isVariadic then
    throw (.variadicDefault index)
  return { name, typeText := p.typeText, annotations := p.annotations, kind := p.kind,
           default := p.default }

/-- Names the parameters from an index on. -/
def parametersFrom (keywords : List String) (index : Nat) :
    List ParameterShape → Except EmissionCause (List Wrapper.Parameter)
  | [] => pure []
  | p :: rest => do
    let first ← parameter keywords index p
    let others ← parametersFrom keywords (index + 1) rest
    return first :: others

/-- The kinds must not go back in their order, variadic ones must not repeat, and positional
    parameters with a default must not be followed by one without. `last` is the kind before. -/
def checkOrder (index : Nat) (last : Option ParameterKind) (defaulted : Bool) :
    List ParameterShape → Except EmissionCause Unit
  | [] => pure ()
  | p :: rest =>
    let outOfPlace := match last with
      | some before => p.kind.rank < before.rank || (p.kind.isVariadic && p.kind = before)
      | none => false
    if outOfPlace then throw (.outOfOrder index p.kind)
    else if p.kind = .positional && p.default.isNone && defaulted then throw (.defaultMissing index)
    else
      checkOrder (index + 1) (some p.kind)
        (defaulted || (p.kind = .positional && p.default.isSome)) rest

/-- The names that occur twice or are bound by the override itself, each once, in order. -/
def clashes (names : List String) : List String :=
  ((names.filter fun n => 1 < names.count n || boundNames.contains n).eraseDups).mergeSort
    fun a b => !(b < a)

/-- The override of a method. -/
def override (s : SubjectShape) (m : MethodShape) : Except EmissionCause Wrapper.Override := do
  if !Text.isName m.name then throw .methodNameNotIdentifier
  let parameters ← parametersFrom m.keywords 0 m.parameters
  checkOrder 0 none false m.parameters
  let names := parameters.map (·.name)
  let clashing := clashes names
  if !clashing.isEmpty then throw (.namesClash clashing)
  return { name := m.name
           subjectType := s.simpleName
           targetType := s.target
           visibility := m.visibility
           returns := m.returns
           parameters
           isAsync := m.isAsync
           itemLocal := freeLocal "item" names
           subjectLocal := freeLocal "subject" names }

end MethodShape

/-! ## Emission -/

namespace SubjectShape

/-- The wrapper class of a subject, before it is printed. -/
def wrapper (s : SubjectShape) : Except EmissionError Wrapper.Class := do
  let refuse (cause : EmissionCause) : EmissionError := ⟨s.qualifiedName, none, cause⟩
  if !Text.isDottedPath s.package then throw (refuse (.packageNotPath s.package))
  if !Text.isName s.simpleName then throw (refuse (.simpleNameNotIdentifier s.simpleName))
  let overrides ← s.eligibleMethods.mapM fun m =>
    (m.override s).mapError fun cause => ⟨s.qualifiedName, some m.name, cause⟩
  return { package := s.package, subjectName := s.simpleName, targetType := s.target, overrides }

/-- The wrapper module of a subject. -/
def emit (s : SubjectShape) : Except EmissionFailure WrapperSource := do
  let c ← s.wrapper.mapError .refused
  if c.text.contains Source.nulCharacter then throw .nulCharacter
  else if Source.parses c.text then
    return { className := c.name, package := s.package, code := c.text }
  else throw (.refused ⟨s.qualifiedName, none, .doesNotParse⟩)

end SubjectShape

end EachSubject
