import EachSubject.Hint.Structure
import EachSubject.World.Function

/-!
# Classes

A class is known by its name, the classes above it in order, its own namespace, and the type
parameters with which it can be subscripted.
-/

namespace EachSubject

/-- A field of a record class. -/
structure Field where
  name : String
  default : Option Value := none

/-- What kind of objects a class has. -/
inductive ClassKind where
  | ordinary
  /-- Immutable objects with named fields. -/
  | record (fields : List Field)
  /-- The members of an enumeration with their values, and the class of plain values that they also
      are. -/
  | enumeration (members : List (String × Value)) (mixin : Option ClassName)

/-- A class as it stands in a world. -/
structure ClassInfo where
  name : ClassName
  kind : ClassKind := .ordinary
  bases : List ClassName := []
  /-- The bases as they were written, if one of them was subscripted. -/
  writtenBases : Option (List Value) := none
  /-- The type variables for which subscripting gives arguments. -/
  typeParameters : List Value := []
  /-- The class itself and all classes above it, in the order in which members are looked up. -/
  order : List ClassName
  /-- The class's own members, in order. -/
  members : List (String × Member) := []
  /-- The names of members that have to be given by classes below before there are objects. -/
  missing : List String := []

/-- A class as it is declared. -/
structure ClassDeclaration where
  name : ClassName
  kind : ClassKind
  bases : List Value
  members : List (String × Member)

namespace ClassInfo

/-- The class as a value. -/
def value (c : ClassInfo) : Value :=
  match c.kind with
  | .enumeration .. => .class c.name true
  | _ => .class c.name false

/-- Does any base, or the class itself, take type arguments? -/
def isSubscriptable (c : ClassInfo) : Bool := !c.typeParameters.isEmpty

/-- The class's own member of a name. -/
def member? (c : ClassInfo) (name : String) : Option Member := c.members.lookup name

/-- The class with one more member, which takes the place of the one that has its name. -/
def withMember (c : ClassInfo) (entry : String × Member) : ClassInfo :=
  if c.members.any (·.1 == entry.1) then
    { c with members := c.members.map fun other => if other.1 == entry.1 then entry else other }
  else { c with members := c.members ++ [entry] }

end ClassInfo

/-! ## Names of the library -/

def objectClass : ClassName := .builtin "object"
def subjectClass : ClassName := ⟨"iterwrap.subject.base", "Subject"⟩
def factoryClass : ClassName := ⟨"iterwrap.subject.factory", "SubjectFactory"⟩
def classFactoryClass : ClassName := ⟨factoryClass.module, "_ClassSubjectFactory"⟩
def genericClass : ClassName := ⟨"typing", "Generic"⟩

/-- A type variable of the base class of subjects. -/
def subjectVariable (name : String) : Value := .typeVar subjectClass.module name

/-- A type variable of the base class of factories. -/
def factoryVariable (name : String) : Value := .typeVar factoryClass.module name

/-- The class above all errors. -/
def baseErrorClass : ClassName := .builtin "BaseException"

/-- The class above all enumerations. -/
def enumClass : ClassName := ⟨"enum", "Enum"⟩

/-- The root of the classes that leave members to be given by classes below. -/
def abstractClass : ClassName := ⟨"abc", "ABC"⟩

/-- The class of failed checks, and those of the objects that failures are reported to. -/
def failureClass : ClassName := ⟨"iterwrap.subject.failure", "Failure"⟩
def failedCheckClass : ClassName := ⟨failureClass.module, "AssertionFailedError"⟩
def reporterClass : ClassName := ⟨failureClass.module, "FailureStrategy"⟩
def raisingClass : ClassName := ⟨failureClass.module, "RaisingFailureStrategy"⟩
def collectingClass : ClassName := ⟨failureClass.module, "CollectingFailureStrategy"⟩

end EachSubject
