import EachSubject.Factory
import EachSubject.Loading

/-!
# Sessions

A session calls methods of one subject, or of one wrapper, and answers each step. All its steps share
what is done about failed checks: they are raised, or recorded until they are cleared or raised
together. A new subject or wrapper may take the place of the current one.
-/

namespace EachSubject

/-- What a step of a session asks for. -/
inductive Request where
  | call (method : String) (arguments : Call)
  /-- Makes a new subject of a class the current one. -/
  | newSubject (owner actual : Value)
  /-- Makes a new wrapper for other data the current one. -/
  | newWrapper (data : List Value) (once : Bool)
  /-- Forgets the recorded failures. -/
  | clear
  /-- Raises the recorded failures as one, if there are any. -/
  | raiseIfFailed
  /-- Asks for the recorded failures. -/
  | failures

/-- What a step answers, apart from a fault. -/
inductive Answer where
  /-- The step has no value. -/
  | done
  /-- The value is the current subject or wrapper. -/
  | current
  /-- Another subject, by the name of its class. -/
  | subject (name : String)
  /-- A value that stands for itself. -/
  | value (value : Value)
  /-- Any other value, by its text. -/
  | text (shown : String)

/-- What a step leads to: an answer or a fault, and the failures recorded so far if they are kept. -/
structure Reply where
  outcome : Except Fault Answer
  failures : Option (List Failure)

/-- What makes wrappers: the class of a wrapper, and the factory that it is given. -/
structure WrapperMaker where
  wrapper : Value
  factory : Value

/-- What happened so far, and the subject or wrapper whose methods are called. -/
structure Session where
  store : Store
  current : Value
  maker : Option WrapperMaker := none

namespace Session

/-- The failures that a store keeps for asking. -/
def keptFailures (store : Store) : Option (List Failure) :=
  match store.policy with
  | .collect => some store.failures
  | .raise => none

/-- What failures are reported to. -/
def reporter : Run Value := do return (← get).policy.reporter

/-- Makes a subject. -/
def makeSubject (owner actual : Value) : Run Value := do
  engine.call owner { positional := [← reporter, actual] }

/-- Makes a wrapper for data, which may be given once only. -/
def makeWrapper (m : WrapperMaker) (data : List Value) (once : Bool) : Run Value := do
  let data ← if once then Run.newIterator "list_iterator" data else Run.newList data
  engine.call m.wrapper { positional := [← reporter, m.factory, data] }

/-- How a value is answered. -/
def answerFor (current value : Value) : Run Answer := do
  if Value.isSame value current then return .current
  let value ← Run.current value
  match value with
  | .reference _ owner =>
    if (← Run.world).isSubclass owner subjectClass then return .subject owner.simple
    else return .text (← engine.textOf value)
  | value =>
    match value.plain with
    | .none => return .value .none
    | .bool b => return .value (.bool b)
    | .int place n => return .value (.int place n)
    | .text place t => return .value (.text place t)
    | _ => return .text (← engine.textOf value)

/-- Runs a step; the second part is the object that is current afterwards. -/
def serve (s : Session) (request : Request) : Run (Answer × Value) := do
  let collects := (← get).policy == .collect
  match request with
  | .call method arguments =>
    let result ← engine.finish (← engine.callMethod s.current method arguments)
    return (← answerFor s.current result, s.current)
  | .newSubject owner actual => return (.done, ← makeSubject owner actual)
  | .newWrapper data once =>
    match s.maker with
    | some maker => return (.done, ← makeWrapper maker data once)
    | none => throw .mismatch
  | .clear =>
    if !collects then throw .missingAttribute
    modify fun store => { store with failures := [] }
    return (.done, s.current)
  | .raiseIfFailed =>
    if !collects then throw .missingAttribute
    Engine.raiseRecorded
    return (.done, s.current)
  | .failures =>
    if !collects then throw .missingAttribute
    return (.done, s.current)

/-- Serves a step: the reply, and the session afterwards. -/
def step (s : Session) (request : Request) : Reply × Session :=
  match (s.serve request).start s.store with
  | (.ok (answer, current), store) =>
    (⟨.ok answer, keptFailures store⟩, { s with store, current })
  | (.error fault, store) => (⟨.error fault, keptFailures store⟩, { s with store })

/-- Serves the steps in order. -/
def replies (s : Session) : List Request → List Reply
  | [] => []
  | request :: rest =>
    let (reply, next) := s.step request
    reply :: next.replies rest

/-- A session with a subject. -/
def ofSubject (store : Store) (owner actual : Value) : Except Fault Session :=
  match (makeSubject owner actual).start store with
  | (.ok current, store) => .ok { store, current }
  | (.error fault, _) => .error fault

end Session

/-! ## Wrappers -/

/-- Why a session with a wrapper does not come about. -/
inductive WrapFailure where
  | fault (fault : Fault)
  | build (failure : BuildFailure)
  /-- The given shape is none. -/
  | invalid (problems : List Problem)

/-- A loaded wrapper class with its session. -/
structure WrapSession where
  wrapper : ClassInfo
  session : Session

namespace WrapSession

/-- The source of a wrapper: a given shape, or the subject class of the factory. -/
def sourceFor (shape : Option (Validated SubjectShape)) (factory : Value) :
    Run (Except WrapFailure WrapperSource) := do
  match shape with
  | some (.valid shape) => return shape.emit.mapError fun failure => .build (.emission failure)
  | some (.invalid problems) => return .error (.invalid problems)
  | none => return (← Factory.wrapperSource factory).mapError .build

/-- Loads a wrapper class and makes a wrapper for data. -/
def load (factory : Value) (source : WrapperSource) (data : List Value) (once : Bool) :
    Run (ClassInfo × WrapperMaker × Value) := do
  let wrapper ← source.load
  let maker : WrapperMaker := ⟨wrapper, factory⟩
  let current ← Session.makeWrapper maker data once
  match wrapper with
  | .class name _ =>
    return (← Run.orFault .missingAttribute ((← Run.world).class? name), maker, current)
  | _ => throw .missingAttribute

/-- A session with a wrapper of what a factory makes, over data. -/
def ofFactory (store : Store) (factory : FactorySource) (shape : Option (Validated SubjectShape))
    (data : List Value) (once : Bool) : Except WrapFailure WrapSession :=
  let prepared : Run (Value × Except WrapFailure WrapperSource) := do
    let factory ← factory.make
    return (factory, ← sourceFor shape factory)
  match prepared.start store with
  | (.error fault, _) => .error (.fault fault)
  | (.ok (_, .error failure), _) => .error failure
  | (.ok (factory, .ok source), store) =>
    match (load factory source data once).start store with
    | (.error fault, _) => .error (.fault fault)
    | (.ok (wrapper, maker, current), store) =>
      .ok ⟨wrapper, { store, current, maker := some maker }⟩

end WrapSession

/-- The names of a class's own members, those that belong to the language aside. -/
def ClassInfo.ownNames (c : ClassInfo) : List String :=
  (c.members.map (·.1)).filter fun name => !Description.isSpecialName name

end EachSubject
