import EachSubject.Build

/-!
# Factories

A factory makes subjects of one class. It is made for that class, or its own class binds it as type
argument. The wrapper of a factory is the one of its subject class.
-/

namespace EachSubject

/-- How a factory is given. -/
inductive FactorySource where
  /-- A factory that is made for a subject class. -/
  | forClass (subject : Value)
  /-- An object of a class of factories. -/
  | ofClass (factory : Value)

/-- Makes the factory. -/
def FactorySource.make : FactorySource → Run Value
  | .forClass subject => engine.call (.builtin "subject_factory") { positional := [subject] }
  | .ofClass factory => engine.call factory {}

namespace Factory

/-- The subject class of a factory. -/
def subject (factory : Value) : Run Value := engine.getAttribute factory "subject_class"

/-- The full name of the subject class of a factory. -/
def subjectName (factory : Value) : Run String := do
  Run.lift (Hint.nameOf (← subject factory))

/-- The full name of the wrapper class of a factory. -/
def wrapperName (factory : Value) : Run String := do
  Run.lift (wrapperNameOf (← subject factory))

/-- The wrapper of a factory. -/
def wrapperSource (factory : Value) : Run (Except BuildFailure WrapperSource) := do
  return (← Run.world).build (← subject factory)

end Factory

end EachSubject
