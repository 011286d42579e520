import EachSubject.Check.Message
import EachSubject.Execution.Language

/-!
# The checks of every subject

A subject keeps the value under check, what reports its failures, and a name if it was given one. A
check whose condition is false reports a failure, through the subject's own function for it. A failure
carries the name of its subject, which has to be a text or to stand for one.
-/

namespace EachSubject

/-- The text of UTF-8 bytes. -/
def textOfBytes? (bytes : List UInt8) : Option String := String.fromUTF8? ⟨bytes.toArray⟩

/-- The text that the name of a subject is recorded as. A member of an enumeration stands for its
    value. -/
def recordedName (name : Value) : Validated (Option String) :=
  let problem (kind : ProblemKind) : Validated (Option String) :=
    .invalid [⟨kind, [.field "subject_name"]⟩]
  match name with
  | .none => .valid none
  | .text _ name => .valid (some name)
  | .bytes _ bytes =>
    match textOfBytes? bytes with
    | some name => .valid (some name)
    | none => problem .undecodableText
  | .member _ _ value _ =>
    match Value.plainText value with
    | .ok name => .valid (some name)
    | .error _ => problem .notText
  | _ => problem .notText

/-- A failure as a record. -/
def Failure.record (failure : Failure) (place : Nat) : Value :=
  .record place failureClass
    [("message", .text place failure.message),
     ("subject_name", (failure.subjectName.map (Value.text place)).getD .none)]

/-- The failure that a record is. -/
def Failure.ofRecord? : Value → Option Failure
  | .record _ _ fields =>
    match fields.lookup "message", fields.lookup "subject_name" with
    | some (.text _ message), some (.text _ name) => some ⟨message, some name⟩
    | some (.text _ message), _ => some ⟨message, none⟩
    | _, _ => none
  | _ => none

namespace Engine

variable (e : Engine)

/-- What a parameter received, as a value. -/
def received (arguments : Arguments) (name : String) : Run Value := do
  match arguments.lookup name with
  | some (.one value) => return value
  | some (.extra values) => Run.newTuple values
  | some (.extraKeywords entries) => Run.newDict entries
  | none => throw .unknownName

/-- The positional arguments that were left over for a parameter. -/
def receivedExtra (arguments : Arguments) (name : String) : List Value :=
  match arguments.lookup name with
  | some (.extra values) => values
  | _ => []

/-- Reports a failure to what an object says reports its failures. -/
def reportTo (reporter : Value) (failure : Run Failure) : Run Unit := do
  let report ← e.getAttribute reporter "fail"
  let failure ← failure
  discard <| e.call report { positional := [failure.record (← Run.freshPlace)] }

/-- Reports that a check of the subject failed. -/
def reportCheck (self verb : Value) (others : List Value) : Run Unit := do
  let subject ←
    match ← e.getAttribute self "_name" with
    | .none => do pure (Check.shorten (← e.textOf (← e.getAttribute self "_actual")))
    | name => e.format name ""
  let verb ← e.format verb ""
  let others ← others.mapM e.textOf
  e.reportTo (← e.getAttribute self "failure_strategy") do
    match recordedName (← e.getAttribute self "_name") with
    | .valid subjectName => return ⟨Check.message subject verb others, subjectName⟩
    | .invalid problems => throw (.invalidFailure problems)

/-- Fails a check through the subject's own function for it, unless its condition holds. -/
def require (self : Value) (condition : Bool) (verb : String) (others : List Value) : Run Unit := do
  if condition then return
  let verb ← Run.newText verb
  discard <| e.callMethod self "_fail" { positional := verb :: others }

/-- Runs a function of the base class of subjects. -/
def runSubjectFunction (f : SubjectFunction) (arguments : Arguments) : Run Value := do
  let self ← received arguments "self"
  let actual : Run Value := do Run.current (← e.getAttribute self "_actual")
  match f with
  | .construct =>
    e.setAttribute self "failure_strategy" (← received arguments "failure_strategy")
    e.setAttribute self "_actual" (← received arguments "actual")
    e.setAttribute self "_name" .none
    return .none
  | .actual => actual
  | .named =>
    e.setAttribute self "_name" (← received arguments "name")
    return self
  | .isEqualTo =>
    let expected ← Run.current (← received arguments "expected")
    let differs ← e.isTrue (← e.inequality (← actual) expected)
    e.require self (!differs) "is equal to" [expected]
    return .none
  | .isNotEqualTo =>
    let unexpected ← Run.current (← received arguments "unexpected")
    let agrees ← e.isTrue (← e.equality (← actual) unexpected)
    e.require self (!agrees) "is not equal to" [unexpected]
    return .none
  | .isNone =>
    e.require self ((← actual).isSame .none) "is None" []
    return .none
  | .isNotNone =>
    e.require self (!(← actual).isSame .none) "is not None" []
    return .none
  | .isInstanceOf =>
    let kind ← received arguments "cls"
    let holds ← Run.orFault .mismatch (Check.isInstance? (← Run.world) (← actual) kind)
    e.require self holds "is an instance of" [kind]
    return .none
  | .isIn =>
    let container ← received arguments "iterable"
    let holds ← e.holds container (← actual)
    e.require self holds "is equal to any element in" [container]
    return .none
  | .fail =>
    e.reportCheck self (← received arguments "verb") (receivedExtra arguments "others")
    return .none

/-! ## Reporters -/

/-- The failure that stands for all recorded ones. -/
def raiseRecorded : Run Unit := do
  let failures := (← get).failures
  if failures.isEmpty then return
  throw (.failedCheck ⟨Check.summary failures, none⟩)

/-- Runs a function of a class of objects that failures are reported to. -/
def runReporterFunction (f : ReporterFunction) (arguments : Arguments) : Run Value := do
  match f with
  | .construct => return .none
  | .fail =>
    let failure ← received arguments "failure"
    Run.reportFailure (← Run.orFault .missingAttribute (Failure.ofRecord? failure))
    return .none
  | .failures =>
    let failures := (← get).failures
    Run.newList (← failures.mapM fun failure => do return failure.record (← Run.freshPlace))
  | .clear =>
    modify fun store => { store with failures := [] }
    return .none
  | .raiseIfFailed =>
    raiseRecorded
    return .none

end Engine

end EachSubject
