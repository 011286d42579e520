import EachSubject.Execution.Store

/-!
# Running functions

Given how the bodies of functions run, a call of a function binds the arguments; a plain function then
runs, any other is suspended until its result is awaited or drained. A coroutine gives its result once;
a generator that is drained a second time yields nothing.
-/

namespace EachSubject

/-- What running a body gives: its result, what it yielded on the way, and the fault that ended it once
    it had yielded. -/
structure Outcome where
  result : Value := .none
  yielded : List Value := []
  ending : Option Fault := none

/-- How bodies of functions run, and how values are called. -/
structure Engine where
  execute : Function → Arguments → Run Outcome
  apply : Value → Call → Run Value
  /-- The most items that are asked for one by one. -/
  itemLimit : Nat

namespace Engine

variable (e : Engine)

/-- The class that the references to suspended calls of a form have. -/
def suspendedClass : FunctionForm → ClassName
  | .plain => objectClass
  | .coroutine => .builtin "coroutine"
  | .generator => .builtin "generator"
  | .asyncGenerator => .builtin "async_generator"

/-- Runs a plain function; suspends the call of any other. -/
def invoke (f : Function) (arguments : Arguments) : Run Value := do
  match f.form with
  | .plain => return (← e.execute f arguments).result
  | form =>
    let id ← Run.allocate (.suspended f arguments)
    return .reference id (suspendedClass form)

/-- Calls a function. -/
def run (f : Function) (call : Call) : Run Value := do
  match call.bind? f.parameters with
  | some arguments => e.invoke f arguments
  | none => throw .mismatch

/-- Runs a suspended call of the wanted forms to its end. -/
def resume (id : Nat) (f : Function) (arguments : Arguments) : Run Outcome := do
  Run.setEntity id (.finished f.form)
  e.execute f arguments

/-- Awaits a value, which has to be a coroutine. -/
def await (value : Value) : Run Value := do
  match value with
  | .reference id _ =>
    match ← Run.entity? id with
    | some (.suspended f arguments) =>
      if f.form = .coroutine then return (← e.resume id f arguments).result
      else throw .mismatch
    | some (.finished .coroutine) => throw .spent
    | _ => throw .mismatch
  | _ => throw .mismatch

end Engine

end EachSubject
