import EachSubject.Execution.Override
import EachSubject.Execution.Pattern

/-!
# Running statements

Statements run in order until one of them leaves the block: by a result, by leaving a loop or starting
its next round, or by a fault, which a clause of a statement around may handle. The names that the body
of a class binds become the members of the class.
-/

namespace EachSubject

/-- What comes after a statement. -/
inductive Signal where
  /-- The next statement. -/
  | next
  /-- The statement behind the loop. -/
  | leave
  /-- The next round of the loop. -/
  | again
  | give (value : Value)

namespace Engine

variable (e : Engine)

/-! ## Loops -/

/-- Rounds of a loop, at most so many, as long as there is something to work on; tells whether the loop
    came to its own end. -/
def rounds (round : Run (Option Signal)) : Nat → Run (Signal × Bool)
  | 0 => throw .tooDeep
  | count + 1 => do
    match ← round with
    | none => return (.next, true)
    | some .leave => return (.next, false)
    | some (.give value) => return (.give value, false)
    | some _ => rounds round count

/-! ## Errors -/

/-- The error that a fault is. -/
def errorOf (fault : Fault) : Run Value := do
  match fault with
  | .raised error => return error
  | fault =>
    let place ← Run.freshPlace
    let message := fault.message
    return .error place fault.errorClass (if message.isEmpty then [] else [.text place message])

/-- The fault of raising a value. -/
def faultOf (value : Value) : Run Fault := do
  match value with
  | .error .. => return .raised value
  | .class owner _ =>
    if (← Run.world).isSubclass owner baseErrorClass then
      match ← e.call value {} with
      | .error place owner arguments => return .raised (.error place owner arguments)
      | _ => return .mismatch
    else return .mismatch
  | _ => return .mismatch

/-- An error of one class is handled by a clause for a kind of errors. -/
def isHandledBy (owner : ClassName) (kind : Value) : Run Bool := do
  let w ← Run.world
  let one (kind : Value) : Run Bool :=
    match kind with
    | .class name _ =>
      if w.isSubclass name baseErrorClass then pure (w.isSubclass owner name) else throw .mismatch
    | _ => throw .mismatch
  match kind with
  | .tuple _ kinds => kinds.anyM one
  | kind => one kind

/-- The fault that is being handled. -/
def handledFault : Run Fault := do
  match (← get).handled with
  | fault :: _ => return fault
  | [] => return .spent

/-- Runs while a fault is being handled. -/
def handling {α : Type} (fault : Fault) (run : Run α) : Run α := do
  let before := (← get).handled
  modify fun store => { store with handled := fault :: before }
  let outcome ← tryCatch (do return Except.ok (← run)) fun fault => return Except.error fault
  modify fun store => { store with handled := before }
  Run.lift outcome

/-! ## Functions and classes -/

/-- The function of a statement. -/
def functionOfStatement (f : Frame) (isAsync : Bool) (name : String)
    (parameters : List Source.Parameter) (defaults : List (Option Value)) (body : List Source.Stmt) :
    Run Value := do
  let own := (parameters.zip defaults).map fun (p, default) => parameterOf f p default
  let path := f.pathOf name
  let wrapperBody := match f.kind, f.definer with
    | .classBody, some owner => Override.body? owner own body
    | _, _ => none
  let outline := Source.bodyOutline f.owner body
  let code := codeIn f (.statements body) (own.map (·.name)) outline path
  let form : FunctionForm := match isAsync, code.isGenerator with
    | true, true => .asyncGenerator
    | true, false => .coroutine
    | false, true => .generator
    | false, false => .plain
  let doc ← match body with
    | .expression (.literal (.text shown)) :: _ => Run.newText shown
    | _ => pure .none
  newFunction
    { module := f.module, name, parameters := own, form, doc
      body := wrapperBody.getD (.source code) }

/-- Applies decorators, the last one first. -/
def decorate (value : Value) (decorators : List Value) : Run Value :=
  decorators.reverse.foldlM (fun value decorator => e.call decorator { positional := [value] }) value

/-- The frame of the body of a class. -/
def classFrame (f : Frame) (name : String) (body : List Source.Stmt) : Run Frame := do
  let path := f.pathOf name
  let outline := Source.bodyOutline name body
  let scope ← Run.allocate (.scope
    [("__module__", ← Run.newText f.module), ("__qualname__", ← Run.newText path)])
  let doc ← match body with
    | .expression (.literal (.text shown)) :: _ => do pure [("__doc__", ← Run.newText shown)]
    | _ => pure []
  doc.forM fun (own, value) => Run.setName scope own value
  return { kind := .classBody, scope, names := Source.Outline.localNames [] outline
           globalNames := Source.Outline.globalNames outline, around := f.visible
           globals := f.globals, module := f.module, owner := name, path
           definer := some ⟨f.module, path⟩ }

/-- The class whose body has run in a frame. -/
def classFromFrame (f : Frame) (call : Call) : Run Value := do
  let members := (← Run.namesOf f.scope).filter (·.1 != "__qualname__")
  let words := (call.keywords.filter (·.1 != "metaclass")).map (·.1)
  if !words.isEmpty then throw .mismatch
  e.makeClass ⟨f.module, f.path⟩ call.positional members

/-! ## Imports -/

/-- The full name of a module that may be given from the module that imports it. -/
def absoluteModule (f : Frame) (level : Nat) (path : List String) : Run String := do
  let rec up (module : String) : Nat → Option String
    | 0 => some module
    | level + 1 => (parentModule? module).bind (up · level)
  match level with
  | 0 => return ".".intercalate path
  | level =>
    match up f.module level with
    | some parent => return ".".intercalate (parent :: path)
    | none => throw .missingImport

/-- Imports a module. -/
def importWhole (f : Frame) (path : List String) (given : Option String) : Run Unit := do
  let whole := ".".intercalate path
  if !(← Run.world).isImportable whole then throw .missingModule
  match given with
  | some name => f.bind name (.module whole)
  | none =>
    let first := path.headD ""
    f.bind first (.module first)

/-- Imports names of a module. -/
def importFrom (f : Frame) (module : String) (names : List (String × Option String)) : Run Unit := do
  names.forM fun (name, given) => do
    f.bind (given.getD name) (← Run.lift ((← Run.world).importName module name))

/-- Imports all public names of a module. -/
def importAll (f : Frame) (module : String) : Run Unit := do
  let w ← Run.world
  if !w.isImportable module then throw .missingModule
  let classes := w.classes.reverse.filter fun c =>
    c.name.module == module && c.name.isTopLevel && c.name.path.toList.head? != some '_'
  classes.forM fun c => f.bind c.name.path c.value

/-! ## Statements -/

/-- A name that is declared to have a type, and nothing else. -/
def isBareName : Source.Expr → Bool
  | .name _ => true
  | _ => false

mutual

/-- Runs a statement. -/
def runStatement (f : Frame) : Source.Stmt → Run Signal
  | .expression value => do
    discard <| e.evaluate f value
    return .next
  | .assign targets value => do
    let value ← e.evaluate f value
    targets.forM (e.assign f · value)
    return .next
  | .augment target op value => do
    match target with
    | .attribute object name =>
      let object ← e.evaluate f object
      let left ← e.getAttribute object (f.inside name)
      let found ← e.updateOperator op left (← e.evaluate f value)
      e.setAttribute object (f.inside name) found
    | .subscript object index =>
      let object ← e.evaluate f object
      let index ← e.evaluate f index
      let left ← e.getItem object index
      let found ← e.updateOperator op left (← e.evaluate f value)
      e.setItem object index found
    | target =>
      let left ← e.evaluate f target
      let found ← e.updateOperator op left (← e.evaluate f value)
      e.assign f target found
    return .next
  | .annotate target _ value => do
    match value with
    | some value => do e.assign f target (← e.evaluate f value)
    | none =>
      match target with
      | .attribute object _ => discard <| e.evaluate f object
      | .subscript object index =>
        discard <| e.evaluate f object
        discard <| e.evaluate f index
      | _ => pure ()
    return .next
  | .importModules modules => do
    modules.forM fun (path, given) => importWhole f path given
    return .next
  | .importNames level path (some names) => do
    importFrom f (← absoluteModule f level path) names
    return .next
  | .importNames level path none => do
    importAll f (← absoluteModule f level path)
    return .next
  | .pass => return .next
  | .break => return .leave
  | .continue => return .again
  | .return none => return .give .none
  | .return (some value) => do return .give (← e.evaluate f value)
  | .raise none _ => do throw (← handledFault)
  | .raise (some error) cause => do
    let fault ← e.faultOf (← e.evaluate f error)
    match cause with
    | some cause => discard <| e.evaluate f cause
    | none => pure ()
    throw fault
  | .delete targets => do
    deleteAll f targets
    return .next
  | .assert test message => do
    if ← e.isTrue (← e.evaluate f test) then return .next
    match message with
    | some message =>
      let shown ← e.evaluate f message
      throw (.raised (.error (← Run.freshPlace) (.builtin "AssertionError") [shown]))
    | none => throw .notAsserted
  | .global _ => return .next
  | .nonlocal _ => return .next
  | .function decorators isAsync name parameters _ body => do
    let decorators ← decorators.mapM (e.evaluate f)
    let defaults ← e.evaluateDefaults f parameters
    let function ← functionOfStatement f isAsync name parameters defaults body
    f.bind name (← e.decorate function decorators)
    return .next
  | .class decorators name arguments body => do
    let decorators ← decorators.mapM (e.evaluate f)
    let call ← e.evaluateCall f {} arguments
    let inner ← classFrame f name body
    discard <| runAll inner body
    let made ← e.classFromFrame inner call
    f.bind name (← e.decorate made decorators)
    return .next
  | .if test body orElse => do
    if ← e.isTrue (← e.evaluate f test) then runAll f body else runAll f orElse
  | .while test body orElse => do
    let (signal, ended) ← rounds (do
      if ← e.isTrue (← e.evaluate f test) then return some (← runAll f body) else return none)
      e.itemLimit
    if ended then runAll f orElse else return signal
  | .for _ target iterable body orElse => do
    let iterator ← e.iterator (← e.evaluate f iterable)
    let (signal, ended) ← rounds (do
      match ← e.nextItem iterator with
      | some item =>
        e.assign f target item
        return some (← runAll f body)
      | none => return none) e.itemLimit
    if ended then runAll f orElse else return signal
  | .with _ items body => runWith f (runAll f body) items
  | .try body handlers orElse finalBody => do
    let guarded : Run Signal := do
      let outcome ← tryCatch (do return Except.ok (← runAll f body)) fun fault =>
        return Except.error fault
      match outcome with
      | .ok .next => runAll f orElse
      | .ok signal => return signal
      | .error fault => runHandlers f fault handlers
    let outcome ← tryCatch (do return Except.ok (← guarded)) fun fault => return Except.error fault
    match ← runAll f finalBody with
    | .next => Run.lift outcome
    | signal => return signal
  | .match subject cases => do runCases f (← e.evaluate f subject) cases

/-- Runs statements in order. -/
def runAll (f : Frame) : List Source.Stmt → Run Signal
  | [] => return .next
  | statement :: rest => do
    match ← runStatement f statement with
    | .next => runAll f rest
    | signal => return signal

/-- Enters objects one after the other, runs a body inside, and leaves them in turn. -/
def runWith (f : Frame) (body : Run Signal) : List (Source.Expr × Option Source.Expr) → Run Signal
  | [] => body
  | (manager, target) :: rest => do
    let manager ← e.evaluate f manager
    let exit ← Run.orFault .mismatch (← hook? manager "__exit__")
    let entered ← Run.orFault .mismatch (← e.callHook? manager "__enter__" [])
    match target with
    | some target => e.assign f target entered
    | none => pure ()
    let outcome ← tryCatch (do return Except.ok (← runWith f body rest)) fun fault =>
      return Except.error fault
    match outcome with
    | .ok signal =>
      discard <| e.callFunction exit { positional := [manager, .none, .none, .none] }
      return signal
    | .error fault =>
      let error ← errorOf fault
      let kind := (← Run.world).classValue fault.errorClass
      let found ← e.callFunction exit { positional := [manager, kind, error, .none] }
      if ← e.isTrue found then return .next else throw fault

/-- Runs the first clause that handles a fault. -/
def runHandlers (f : Frame) (fault : Fault) : List Source.Handler → Run Signal
  | [] => throw fault
  | .mk _ none _ body :: _ => handling fault (runAll f body)
  | .mk _ (some kind) name body :: rest => do
    if ← isHandledBy fault.errorClass (← e.evaluate f kind) then
      match name with
      | none => handling fault (runAll f body)
      | some name =>
        f.bind name (← errorOf fault)
        let outcome ← tryCatch (do return Except.ok (← handling fault (runAll f body))) fun fault =>
          return Except.error fault
        tryCatch (f.forget name) fun _ => pure ()
        Run.lift outcome
    else runHandlers f fault rest

/-- Runs the first case that matches. -/
def runCases (f : Frame) (subject : Value) : List Source.Case → Run Signal
  | [] => return .next
  | .mk pattern guard body :: rest => do
    match ← e.matchPattern f pattern subject with
    | none => runCases f subject rest
    | some captures =>
      captures.forM fun (name, value) => f.bind name value
      let holds ← match guard with
        | some guard => do e.isTrue (← e.evaluate f guard)
        | none => pure true
      if holds then runAll f body else runCases f subject rest

/-- Deletes what targets stand for. -/
def deleteTarget (f : Frame) : Source.Expr → Run Unit
  | .name name => f.forget name
  | .attribute object name => do e.deleteAttribute (← e.evaluate f object) (f.inside name)
  | .subscript object index => do
    let object ← e.evaluate f object
    e.deleteItem object (← e.evaluate f index)
  | .tuple targets => deleteAll f targets
  | .list targets => deleteAll f targets
  | _ => throw .malformed

def deleteAll (f : Frame) : List Source.Expr → Run Unit
  | [] => pure ()
  | target :: rest => do
    deleteTarget f target
    deleteAll f rest

end

/-! ## Code -/

/-- The values that the parameters hold, by name. -/
def receivedNames (arguments : Arguments) : Run (List (String × Value)) :=
  arguments.mapM fun (name, argument) =>
    match argument with
    | .one value => return (name, value)
    | .extra values => do return (name, ← Run.newTuple values)
    | .extraKeywords entries => do return (name, ← Run.newDict entries)

/-- The iterators that a call hands over. -/
def receivedIterators (arguments : Arguments) : List Value :=
  match arguments.lookup iteratorsParameter with
  | some (.extra iterators) => iterators
  | _ => []

/-- The next item of a generator that is in the loops of some iterators, the innermost first, with those
    that it is in afterwards; nothing once the outermost one has ended. -/
def advance (f : Frame) (element : Source.Expr) (clauses : List Source.Clause) :
    Nat → List Value → Run Outcome
  | 0, _ => throw .tooDeep
  | _, [] => return {}
  | fuel + 1, iterator :: outer => do
    match ← e.nextItem iterator, clauses.drop outer.length with
    | none, _ => advance f element clauses fuel outer
    | some _, [] => throw .malformed
    | some item, .mk _ target _ conditions :: rest =>
      e.assign f target item
      if !(← e.holdAll f conditions) then advance f element clauses fuel (iterator :: outer)
      else
        match rest with
        | [] =>
          let item ← e.evaluate f element
          return { result := .tuple 0 (iterator :: outer), yielded := [item] }
        | .mk _ _ iterable _ :: _ =>
          let inner ← e.iterator (← e.evaluate f iterable)
          advance f element clauses fuel (inner :: iterator :: outer)

/-- Runs the code of a function. -/
def runCode (f : Function) (code : Code) (arguments : Arguments) : Run Outcome := do
  let scope ← match code.scope with
    | some scope => pure scope
    | none => do Run.allocate (.scope (← receivedNames arguments))
  let yields ← if code.isGenerator then do pure (some (← Run.newYields)) else pure none
  let kind := match code.content, code.scope with
    | .items .., _ => FrameKind.comprehension
    | _, some _ => .module
    | _, none => .function
  let frame : Frame :=
    { kind, scope, names := code.names, globalNames := code.globalNames, around := code.around
      globals := code.globals, module := f.module, owner := code.owner, path := code.path
      definer := code.definer, first := arguments.head?.map (·.1), yields }
  let run : Run Outcome := match code.content with
    | .expression value => do return { result := ← e.evaluate frame value }
    | .statements body => do
      match ← e.runAll frame body with
      | .give value => return { result := value }
      | _ => return {}
    | .items element clauses => do
      e.advance frame element clauses e.itemLimit (receivedIterators arguments)
  match yields with
  | none => run
  | some id =>
    let outcome ← tryCatch (do return Except.ok (← run)) fun fault => return Except.error fault
    let yielded ← Run.yielded id
    match outcome with
    | .ok found => return { found with yielded }
    | .error fault => return { yielded, ending := some fault }

end Engine

end EachSubject
