import EachSubject.Execution.Script
import EachSubject.Execution.Statement
import EachSubject.TypeArguments

/-!
# Execution

The bodies of all functions: scripts, source text, the functions of the base classes of subjects and
factories, and the functions of wrapper classes. A body runs with one level less for the calls that it
makes, so every run ends; at the last level a call is refused.
-/

namespace EachSubject

namespace Engine

variable (e : Engine)

/-- Runs a function of a class of factories. -/
def runFactoryFunction (f : FactoryFunction) (arguments : Arguments) : Run Value := do
  let self ← received arguments "self"
  match f with
  | .construct =>
    e.setAttribute self "_subject_class" (← received arguments "subject_class")
    return .none
  | .keptSubject => e.getAttribute self "_subject_class"
  | .boundSubject => Run.lift ((← Run.world).boundSubject self.classOf)
  | .make =>
    let subject ← e.getAttribute self "_subject_class"
    e.call subject
      { positional := [← received arguments "failure_strategy", ← received arguments "actual"] }
  | .text =>
    let subject ← e.getAttribute self "_subject_class"
    let path ← e.format (← e.getAttribute subject "__qualname__") ""
    Run.newText ("subject_factory(" ++ path ++ ")")

/-- Makes a subject of a class from what the parameters after the first received. -/
def makeSubject (subject : ClassName) (arguments : Arguments) : Run Value := do
  let values := (arguments.drop 1).filterMap fun (_, argument) =>
    match argument with
    | .one value => some value
    | _ => none
  e.call (.ofClass subject) { positional := values }

/-- Runs the body of a function. -/
def runBody (f : Function) (arguments : Arguments) : Run Outcome := do
  match f.body with
  | .script steps => e.runScript steps arguments
  | .source code => e.runCode f code arguments
  | .ofSubject function => return { result := ← e.runSubjectFunction function arguments }
  | .ofFactory function => return { result := ← e.runFactoryFunction function arguments }
  | .ofReporter function => return { result := ← runReporterFunction function arguments }
  | .constructWrapper owner => return { result := ← e.constructWrapper owner arguments }
  | .delegate delegation =>
    return { result := ← e.delegate delegation (← received arguments "self") arguments }
  | .makeSubject subject => return { result := ← e.makeSubject subject arguments }
  | .declared => return {}

/-- Runs functions and calls values, nested at most so deeply, and asks for at most so many items. -/
def nested (itemLimit : Nat) : Nat → Engine
  | 0 => ⟨fun _ _ => throw .tooDeep, fun _ _ => throw .tooDeep, itemLimit⟩
  | depth + 1 => ⟨(nested itemLimit depth).runBody, (nested itemLimit depth).call, itemLimit⟩

end Engine

/-- How deeply calls may be nested. -/
def callDepth : Nat := 900

/-- The most items that are asked for one by one. -/
def itemLimit : Nat := 200000

/-- How functions run. -/
def engine : Engine := Engine.nested itemLimit callDepth

end EachSubject
