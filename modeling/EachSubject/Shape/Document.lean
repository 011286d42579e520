import EachSubject.Shape.Basic
import EachSubject.Shape.Validation
import EachSubject.Json.Reader
import EachSubject.Json.Printer

/-!
# Shapes as documents

Every shape has a document that shows each of its fields, and is read back from a document by
validation: unknown members are ignored, optional ones may be absent.
-/

namespace EachSubject

open Validated

/-! ## Reading -/

/-- Assembles a parameter from its members. -/
def ParameterShape.ofMembers (members : List (String × Json)) : Validated ParameterShape :=
  ParameterShape.mk
    <$> optional textOrNull none "type_name" members
    <*> optional (list text) [] "annotations" members
    <*> optional (word ParameterKind.ofWord?) .positional "kind" members
    <*> optional textOrNull none "keyword" members
    <*> optional textOrNull none "default" members

def ParameterShape.ofJson : Json → Validated ParameterShape := object ofMembers

/-- Assembles a method from its members. -/
def MethodShape.ofMembers (members : List (String × Json)) : Validated MethodShape :=
  MethodShape.mk
    <$> required text "name" members
    <*> required text "declaring_type" members
    <*> optional (word Visibility.ofWord?) .everyone "visibility" members
    <*> optional textOrNull none "return_type" members
    <*> optional (list ParameterShape.ofJson) [] "parameters" members
    <*> optional truth false "final" members
    <*> optional truth false "private" members
    <*> optional truth false "static" members
    <*> optional truth false "is_async" members
    <*> optional truth false "generator" members

def MethodShape.ofJson : Json → Validated MethodShape := object ofMembers

/-- Assembles a subject from its members. -/
def SubjectShape.ofMembers (members : List (String × Json)) : Validated SubjectShape :=
  SubjectShape.mk
    <$> required text "package" members
    <*> required text "simple_name" members
    <*> required text "target_type" members
    <*> optional (list MethodShape.ofJson) [] "methods" members

def SubjectShape.ofJson : Json → Validated SubjectShape := object ofMembers

def WrapperSource.ofMembers (members : List (String × Json)) : Validated WrapperSource :=
  WrapperSource.mk
    <$> required text "class_name" members
    <*> required text "package" members
    <*> required text "source" members

def WrapperSource.ofJson : Json → Validated WrapperSource := object ofMembers

def Failure.ofMembers (members : List (String × Json)) : Validated Failure :=
  Failure.mk
    <$> required text "message" members
    <*> optional textOrNull none "subject_name" members

def Failure.ofJson : Json → Validated Failure := object ofMembers

/-- Validates the text of a document. -/
def Validated.ofText {α : Type} (ofJson : Json → Validated α) (text : String) : Validated α :=
  match Json.read? Json.usualDepth text with
  | some document => ofJson document
  | none => problem .malformed

/-! ## Writing -/

namespace Json

/-- A text or null. -/
def ofTextOrNull : Option String → Json
  | none => .null
  | some value => .string value

end Json

def ParameterShape.toJson (p : ParameterShape) : Json :=
  .object
    [("type_name", .ofTextOrNull p.typeText),
     ("annotations", .list (p.annotations.map .string)),
     ("kind", .string p.kind.word),
     ("keyword", .ofTextOrNull p.keyword),
     ("default", .ofTextOrNull p.default)]

def MethodShape.toJson (m : MethodShape) : Json :=
  .object
    [("name", .string m.name),
     ("declaring_type", .string m.owner),
     ("visibility", .string m.visibility.word),
     ("return_type", .ofTextOrNull m.returns),
     ("parameters", .list (m.parameters.map ParameterShape.toJson)),
     ("final", .bool m.isFinal),
     ("private", .bool m.isPrivate),
     ("static", .bool m.isStatic),
     ("is_async", .bool m.isAsync),
     ("generator", .bool m.isGenerator)]

/-- The members of a subject's document. -/
def SubjectShape.members (s : SubjectShape) : List (String × Json) :=
  [("package", .string s.package),
   ("simple_name", .string s.simpleName),
   ("target_type", .string s.target),
   ("methods", .list (s.methods.map MethodShape.toJson))]

def SubjectShape.toJson (s : SubjectShape) : Json := .object s.members

/-- The members of a wrapper's document. -/
def WrapperSource.members (w : WrapperSource) : List (String × Json) :=
  [("class_name", .string w.className), ("package", .string w.package), ("source", .string w.code)]

def WrapperSource.toJson (w : WrapperSource) : Json := .object w.members

def Failure.toJson (f : Failure) : Json :=
  .object [("message", .string f.message), ("subject_name", .ofTextOrNull f.subjectName)]

/-! ## A written document reads back -/

@[simp] theorem Validated.map_eq_functor {α β : Type} (f : α → β) (a : Validated α) :
    f <$> a = Validated.ap (.valid f) a := rfl

@[simp] theorem Validated.seq_eq_ap {α β : Type} (f : Validated (α → β)) (a : Validated α) :
    f <*> a = Validated.ap f a := rfl

/-- Items that each read back give back the whole list. -/
theorem Validated.items_map {α : Type} {read : Json → Validated α} {write : α → Json}
    (back : ∀ a, read (write a) = .valid a) (index : Nat) (values : List α) :
    items read index (values.map write) = .valid values := by
  induction values generalizing index with
  | nil => rfl
  | cons a rest ih => simp [items, back, ih]

theorem Validated.textOrNull_ofTextOrNull (value : Option String) :
    textOrNull (.ofTextOrNull value) = .valid value := by
  cases value <;> rfl

end EachSubject
