/-!
# Shapes of subjects

What has to be known of a subject class to write its iterating wrapper: where the class lives, what
it checks, and the shape of each of its methods. The wrapper itself is a class whose source text is
kept together with its name and package.
-/

namespace EachSubject

/-- Who may call a method. -/
inductive Visibility where
  /-- Anyone. -/
  | everyone
  /-- The class and its subclasses; the name starts with an underscore. -/
  | subclasses
  /-- The code of the same package. -/
  | package
deriving DecidableEq, Repr, Inhabited

/-- How a parameter takes its argument. -/
inductive ParameterKind where
  | positional
  /-- Collects the positional arguments that are left over. -/
  | extraPositional
  | keywordOnly
  /-- Collects the keyword arguments that are left over. -/
  | extraKeyword
deriving DecidableEq, Repr, Inhabited

namespace Visibility

/-- The word for a visibility in documents. -/
def word : Visibility → String
  | everyone => "public"
  | subclasses => "protected"
  | package => "package"

def all : List Visibility := [everyone, subclasses, package]

/-- The visibility that a word stands for. -/
def ofWord? (word : String) : Option Visibility := all.find? (·.word == word)

theorem ofWord?_word (visibility : Visibility) : ofWord? visibility.word = some visibility := by
  cases visibility <;> rfl

end Visibility

namespace ParameterKind

/-- The word for a kind in documents. -/
def word : ParameterKind → String
  | positional => "positional"
  | extraPositional => "var_positional"
  | keywordOnly => "keyword_only"
  | extraKeyword => "var_keyword"

def all : List ParameterKind := [positional, extraPositional, keywordOnly, extraKeyword]

/-- The kind that a word stands for. -/
def ofWord? (word : String) : Option ParameterKind := all.find? (·.word == word)

/-- Kinds stand in this order in a parameter list. -/
def rank : ParameterKind → Nat
  | positional => 0
  | extraPositional => 1
  | keywordOnly => 2
  | extraKeyword => 3

/-- Takes any number of arguments. -/
def isVariadic : ParameterKind → Bool
  | extraPositional => true
  | extraKeyword => true
  | _ => false

/-- The stars in front of a parameter of this kind, where it is declared and where it is passed on. -/
def stars : ParameterKind → String
  | extraPositional => "*"
  | extraKeyword => "**"
  | _ => ""

theorem ofWord?_word (kind : ParameterKind) : ofWord? kind.word = some kind := by
  cases kind <;> decide

end ParameterKind

/-- One parameter of a subject's method. -/
structure ParameterShape where
  /-- Source text of the declared type. -/
  typeText : Option String
  /-- Names of the metadata of the declared type, in order. -/
  annotations : List String
  kind : ParameterKind
  /-- The name by which a keyword-only parameter is passed. -/
  keyword : Option String
  /-- Source text of the default value. -/
  default : Option String
deriving DecidableEq, Repr, Inhabited

/-- One method of a subject, as far as overriding it needs. -/
structure MethodShape where
  name : String
  /-- Qualified name of the class that defines the method. -/
  owner : String
  visibility : Visibility
  /-- Source text of the declared result type. -/
  returns : Option String
  parameters : List ParameterShape
  isFinal : Bool
  isPrivate : Bool
  isStatic : Bool
  /-- Calling it gives a coroutine, which runs when it is awaited. -/
  isAsync : Bool
  /-- Calling it gives a generator, which runs when it is iterated. -/
  isGenerator : Bool
deriving DecidableEq, Repr, Inhabited

/-- A subject class. -/
structure SubjectShape where
  /-- The module from which the class can be imported. -/
  package : String
  simpleName : String
  /-- Source text of the type of the elements that are checked. -/
  target : String
  methods : List MethodShape
deriving DecidableEq, Repr, Inhabited

/-- The module of a wrapper class. -/
structure WrapperSource where
  className : String
  package : String
  /-- The source text of the module. -/
  code : String
deriving DecidableEq, Repr, Inhabited

/-- The full name of the subject class. -/
def SubjectShape.qualifiedName (shape : SubjectShape) : String :=
  shape.package ++ "." ++ shape.simpleName

/-- The full name of the wrapper class. -/
def WrapperSource.qualifiedName (source : WrapperSource) : String :=
  source.package ++ "." ++ source.className

/-- A wrapper class is named after its subject, with this ending. -/
def wrapperEnding : String := "IteratingWrapper"

/-- One check that did not hold. -/
structure Failure where
  message : String
  /-- The name given to the subject, if one was given. -/
  subjectName : Option String
deriving DecidableEq, Repr, Inhabited

end EachSubject
