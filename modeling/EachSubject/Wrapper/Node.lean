import EachSubject.Shape.Basic

/-!
# The parts of a wrapper module

A wrapper module holds one class, the class holds one override per wrapped method, and an override
holds parameters under the names chosen for them.
-/

namespace EachSubject.Wrapper

/-- A parameter of an override. -/
structure Parameter where
  name : String
  typeText : Option String := none
  annotations : List String := []
  kind : ParameterKind := .positional
  default : Option String := none
deriving DecidableEq, Repr, Inhabited

/-- A method that runs the method of the same name of a fresh subject for each element. -/
structure Override where
  name : String
  subjectType : String
  targetType : String
  visibility : Visibility := .everyone
  returns : Option String := none
  parameters : List Parameter := []
  isAsync : Bool := false
  /-- The variable that holds the element. -/
  itemLocal : String := "item"
  /-- The variable that holds the element's subject. -/
  subjectLocal : String := "subject"
deriving DecidableEq, Repr, Inhabited

/-- The wrapper class and what its module imports. -/
structure Class where
  /-- The module from which the subject class is imported. -/
  package : String
  subjectName : String
  targetType : String
  overrides : List Override := []
deriving DecidableEq, Repr, Inhabited

/-- The name of the wrapper class. -/
def Class.name (c : Class) : String := c.subjectName ++ wrapperEnding

end EachSubject.Wrapper
