import EachSubject.Execution.SubjectCheck

/-!
# Delegation to the elements

An override of a wrapper runs the method of the same name on a new subject for each element of its
data, in order, with the arguments that it was called with, and gives no result. An element is only
looked at when the ones before it are done; a fault ends the whole.
-/

namespace EachSubject.Engine

variable (e : Engine)

/-- A new subject for an element, made by the factory of the wrapper. -/
def subjectFor (self item : Value) : Run Value := do
  let factory ← e.getAttribute self "_subject_factory"
  let make ← e.getAttribute factory "get_subject"
  let reporter ← e.getAttribute self "failure_strategy"
  e.call make { positional := [reporter, item] }

/-- Runs the method of a new subject for one element. -/
def delegateTo (d : Delegation) (self : Value) (arguments : Arguments) (item : Value) : Run Unit := do
  let subject ← e.subjectFor self item
  let method ← e.getAttribute subject d.method
  let call ← Run.orFault .unknownName (Forward.call? arguments d.forwards)
  let result ← e.call method call
  if d.awaits then discard <| e.await result

/-- Runs the method for every element of the wrapper's data. -/
def delegate (d : Delegation) (self : Value) (arguments : Arguments) : Run Value := do
  e.forEach (← e.getAttribute self "_data") (e.delegateTo d self arguments)
  return .none

/-- The constructor of a wrapper class: the next one above it makes a subject without a value, then
    the wrapper keeps its factory and its data. -/
def constructWrapper (owner : ClassName) (arguments : Arguments) : Run Value := do
  let self ← received arguments "self"
  let above := (((← Run.world).orderOf self.classOf).dropWhile (· != owner)).drop 1
  e.construct self { positional := [← received arguments "failure_strategy", .none] } above
  e.setAttribute self "_subject_factory" (← received arguments "subject_factory")
  e.setAttribute self "_data" (← received arguments "data")
  return .none

end EachSubject.Engine
