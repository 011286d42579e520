import EachSubject.Description
import EachSubject.Emission

/-!
# From a subject class to its wrapper

`World.build` describes a subject class and writes its wrapper. A factory leads to the subject class
whose subjects it makes: the one it was made for, or the one that its class binds as type argument.
-/

namespace EachSubject

/-- What stops a build. -/
inductive BuildFailure where
  | description (fault : Fault)
  | emission (failure : EmissionFailure)

/-- The wrapper of a subject class. -/
def World.build (w : World) (subject : Value) : Except BuildFailure WrapperSource :=
  match w.describe subject with
  | .error fault => .error (.description fault)
  | .ok shape => shape.emit.mapError .emission

/-- The notes of a build. -/
def World.buildNotes (w : World) (subject : Value) : List Note :=
  w.describeNotes subject ++
  match w.describe subject with
  | .error _ => []
  | .ok shape =>
    match shape.emit with
    | .ok source =>
      [.built source.qualifiedName shape.eligibleMethods.length shape.methods.length]
    | .error _ => []

/-- The name that a factory's wrapper class goes by. -/
def wrapperNameOf (subject : Value) : Except Fault String := do
  return (← Hint.nameOf subject) ++ wrapperEnding

end EachSubject
