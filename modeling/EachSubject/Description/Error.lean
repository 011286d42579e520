import EachSubject.Text.Quoted

/-!
# Why a class cannot be described

Each refusal names what it is about and gives a cause. A cause found inside a method or in the target
type is passed on as part of the cause for the whole class.
-/

namespace EachSubject

/-- Why a module cannot be imported. -/
inductive ImportCause where
  | missing (module : String)
  /-- The module before the last point is there, and holds no modules. -/
  | parentNotPackage (module parent : String)
deriving DecidableEq, Repr

def ImportCause.message : ImportCause → String
  | missing module => "No module named " ++ Text.quoted module
  | parentNotPackage module parent =>
    "No module named " ++ Text.quoted module ++ "; " ++ Text.quoted parent ++ " is not a package"

/-- Why something cannot be described. -/
inductive DescriptionCause where
  | noName
  | insideFunction
  | notSubject
  | notTopLevel
  /-- The type parameter for the target element type is not bound. -/
  | targetUnbound
  /-- The type parameter of a factory for its subject is not bound. -/
  | subjectUnbound
  | target (part : String) (cause : DescriptionCause)
  | method (name part : String) (cause : DescriptionCause)
  /-- The declaration of a method cannot be read. -/
  | unreadable (method error : String)
  /-- A default, shown by its text, that no source text gives back. -/
  | lostDefault (text : String)
  | malformedPath
  | importFailed (module : String) (cause : ImportCause)
deriving Repr

/-- The place of the target element type among the type parameters of a subject. -/
def targetIndex : Nat := 1

/-- The place of the subject among the type parameters of a factory. -/
def subjectIndex : Nat := 0

def DescriptionCause.message : DescriptionCause → String
  | noName => "has no name"
  | insideFunction => "is defined in a function body and cannot be named from module scope"
  | notSubject => "is not a Subject subclass"
  | notTopLevel => "is not a top-level class of its module"
  | targetUnbound =>
    "does not bind type parameter " ++ toString targetIndex ++
    " (the target element type) of Subject"
  | subjectUnbound => "does not bind the subject type parameter of SubjectFactory"
  | target part cause => "target element type " ++ part ++ " " ++ cause.message
  | method name part cause => "method " ++ Text.quoted name ++ ": " ++ part ++ " " ++ cause.message
  | unreadable name error =>
    "method " ++ Text.quoted name ++ " has no readable signature (" ++ error ++ ")"
  | lostDefault text =>
    "has a default that is neither a literal nor stored on the method (" ++ text ++ ")"
  | malformedPath => "expected 'module:Class' or 'module.Class'"
  | importFailed module cause =>
    "cannot import module " ++ Text.quoted module ++ " (" ++ cause.message ++ ")"

/-- A refusal: what it is about, and why. -/
structure DescriptionError where
  subject : String
  cause : DescriptionCause
deriving Repr

def DescriptionError.message (e : DescriptionError) : String :=
  "Cannot describe " ++ e.subject ++ ": " ++ e.cause.message

end EachSubject
