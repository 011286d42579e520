import EachSubject.Execution
import EachSubject.Shape.Basic

/-!
# Loading a wrapper module

Loading runs the text of a wrapper module from its top: names are imported, and the class is built from
its body. The decorators of a function and the defaults of its parameters are evaluated when the body
comes to it, types never are. The module is known to nobody else, so each loading gives a new class.
-/

namespace EachSubject

namespace WrapperSource

/-- The statements of the module. -/
def statements (source : WrapperSource) : Except Fault (List Source.Stmt) := do
  if source.code.contains Source.nulCharacter then throw .nulCharacter
  let statements ← Fault.orElse .malformed (Source.parse? source.code)
  if statements.isSound then return statements else throw .malformed

/-- Runs the module: what its class has become. -/
def load (source : WrapperSource) : Run Value := do
  let statements ← Run.lift source.statements
  let frame ← Run.moduleFrame source.qualifiedName []
  discard <| engine.runAll frame statements
  Run.orFault .missingAttribute ((← Run.namesOf frame.scope).lookup source.className)

end WrapperSource

end EachSubject
