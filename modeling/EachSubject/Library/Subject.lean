import EachSubject.Library.Typing

/-!
# The subject library

The base class of subjects with the checks that every subject has, the base class of factories with the
factory for one class of subjects, and the classes of objects that failures are reported to.
-/

namespace EachSubject.Library

/-- A type that is declared by its text. -/
def written (text : String) : Value := .text 0 text

/-- A parameter with the text of its type. -/
def typed (name hint : String) : FunctionParameter := { name, hint := some (written hint) }

/-! ## Subjects -/

/-- A function of the base class of subjects. -/
def subjectMember (name : String) (parameters : List FunctionParameter) (returns : String)
    (f : SubjectFunction) : String × Member :=
  (name, .function .onObject (name == "actual")
    { module := subjectClass.module, name, parameters := selfParameter :: parameters
      returns := some (written returns), body := .ofSubject f })

/-- The members of the base class of subjects, in order. -/
def subjectMembers : List (String × Member) :=
  [subjectMember "__init__" [typed "failure_strategy" "FailureStrategy", typed "actual" "T | None"]
     "None" .construct,
   subjectMember "actual" [] "T | None" .actual,
   subjectMember "named" [typed "name" "str"] "Self" .named,
   subjectMember "is_equal_to" [typed "expected" "object"] "None" .isEqualTo,
   subjectMember "is_not_equal_to" [typed "unexpected" "object"] "None" .isNotEqualTo,
   subjectMember "is_none" [] "None" .isNone,
   subjectMember "is_not_none" [] "None" .isNotNone,
   subjectMember "is_instance_of" [typed "cls" "type"] "None" .isInstanceOf,
   subjectMember "is_in" [typed "iterable" "Container[Any]"] "None" .isIn,
   subjectMember "_fail"
     [typed "verb" "str", { (typed "others" "object") with mode := .extraPositional }] "None" .fail,
   ("__parameters__", .value (.tuple 0 [subjectVariable "S", subjectVariable "T"]))]

/-- The base class of subjects; its type parameters are the subject and its target. -/
def subject : ClassInfo where
  name := subjectClass
  bases := [genericClass]
  writtenBases := some
    [.subscripted (.userClass genericClass) [subjectVariable "S", subjectVariable "T"]]
  typeParameters := [subjectVariable "S", subjectVariable "T"]
  order := [subjectClass, genericClass, objectClass]
  members := subjectMembers

/-! ## Factories -/

/-- The base class of factories; its type parameters are the subject and its target. -/
def factory : ClassInfo where
  name := factoryClass
  bases := [abstractClass, genericClass]
  writtenBases := some
    [.ofClass abstractClass,
     .subscripted (.userClass genericClass) [factoryVariable "S", factoryVariable "T"]]
  typeParameters := [factoryVariable "S", factoryVariable "T"]
  order := [factoryClass, abstractClass, genericClass, objectClass]
  members :=
    [("get_subject", .function .onObject false
       { module := factoryClass.module, name := "get_subject"
         parameters :=
           [selfParameter, typed "failure_strategy" "FailureStrategy", typed "actual" "T"]
         returns := some (written "S"), body := .declared }),
     ("subject_class", .function .property false
       { module := factoryClass.module, name := "subject_class", parameters := [selfParameter]
         returns := some (written "type[S]"), body := .ofFactory .boundSubject })]
  missing := ["get_subject"]

/-- A function of the class of factories that are made for one subject class. -/
def classFactoryMember (name : String) (binding : Binding) (parameters : List FunctionParameter)
    (f : FactoryFunction) : String × Member :=
  (name, .function binding false
    { module := factoryClass.module, name, parameters := selfParameter :: parameters
      body := .ofFactory f })

/-- The class of factories that are made for one subject class. -/
def classFactory : ClassInfo where
  name := classFactoryClass
  bases := [factoryClass]
  writtenBases := some
    [.subscripted (.userClass factoryClass) [.ofClass Value.anyClass, .ofClass Value.anyClass]]
  order := [classFactoryClass, factoryClass, abstractClass, genericClass, objectClass]
  members :=
    [classFactoryMember "__init__" .onObject [{ name := "subject_class" }] .construct,
     classFactoryMember "subject_class" .property [] .keptSubject,
     classFactoryMember "get_subject" .onObject
       [{ name := "failure_strategy" }, { name := "actual" }] .make,
     classFactoryMember "__repr__" .onObject [] .text]

/-! ## Failures -/

/-- A function of a class of objects that failures are reported to. -/
def reporterMember (name : String) (binding : Binding) (parameters : List FunctionParameter)
    (f : ReporterFunction) : String × Member :=
  (name, .function binding false
    { module := failureClass.module, name, parameters := selfParameter :: parameters
      body := .ofReporter f })

/-- A class directly below the root. -/
def plainClass (name : ClassName) (members : List (String × Member)) : ClassInfo :=
  { name, bases := [objectClass], order := [name, objectClass], members }

/-- A class of errors below one of the language. -/
def errorClass (name : ClassName) (parent : String) : ClassInfo :=
  { name, bases := [.builtin parent]
    order := name :: (pathsAbove parent chainLength).map ClassName.builtin }

/-- The classes of failures and of what they are reported to. -/
def failureClasses : List ClassInfo :=
  [{ plainClass failureClass [] with
      kind := .record [{ name := "message" }, { name := "subject_name", default := some .none }] },
   errorClass failedCheckClass "AssertionError",
   errorClass ⟨"iterwrap.errors", "DescriptorError"⟩ "Exception",
   errorClass ⟨"pydantic_core", "ValidationError"⟩ "ValueError",
   errorClass ⟨"dataclasses", "FrozenInstanceError"⟩ "AttributeError",
   { name := reporterClass, bases := [protocolClass]
     order := [reporterClass, protocolClass, genericClass, objectClass]
     members :=
       [declared failureClass.module "fail" [typed "failure" "Failure"],
        ("_is_protocol", .value (.bool true)), ("_is_runtime_protocol", .value (.bool true))] },
   plainClass raisingClass [reporterMember "fail" .onObject [{ name := "failure" }] .fail],
   plainClass collectingClass
     [reporterMember "__init__" .onObject [] .construct,
      reporterMember "fail" .onObject [{ name := "failure" }] .fail,
      reporterMember "failures" .property [] .failures,
      reporterMember "clear" .onObject [] .clear,
      reporterMember "raise_if_failed" .onObject [] .raiseIfFailed]]

/-- The names that the subject library gives to its classes. -/
def subjectLibrary : List (String × ClassName) :=
  [("Subject", subjectClass), ("SubjectFactory", factoryClass),
   ("AssertionFailedError", failedCheckClass), ("CollectingFailureStrategy", collectingClass),
   ("Failure", failureClass), ("FailureStrategy", reporterClass),
   ("RaisingFailureStrategy", raisingClass)]

/-- What names stand for in the declared types of a module of the subject library. -/
def namesIn (module : String) : List (String × Value) :=
  if [subjectClass.module, factoryClass.module, failureClass.module].contains module then
    let own := if module = subjectClass.module then
        [("S", subjectVariable "S"), ("T", subjectVariable "T")]
      else [("S", factoryVariable "S"), ("T", factoryVariable "T")]
    own ++ subjectLibrary.map fun (name, found) => (name, Value.ofClass found)
  else []

/-- The public module of the subject library. -/
def subjectModule : String := "iterwrap.subject"

/-- The classes of the subject library. -/
def subjectClasses : List (ClassName × ClassInfo) :=
  [(subjectClass, subject), (factoryClass, factory), (classFactoryClass, classFactory)] ++
  failureClasses.map fun info => (info.name, info)

/-! ## All classes -/

/-- Every class of the library that is none of the language. -/
def classes : List (ClassName × ClassInfo) :=
  subjectClasses ++ typingClasses ++ collections ++
  [(enumClass,
    { name := enumClass, kind := .enumeration [] none, bases := [objectClass]
      order := [enumClass, objectClass] })]

/-- A class of the library. -/
def class? (name : ClassName) : Option ClassInfo :=
  if name.module = ClassName.builtinModule then builtinClass? name.path else classes.lookup name

end EachSubject.Library
