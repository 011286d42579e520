import EachSubject.Wrapper.Node

/-!
# The text of a wrapper module

Each part is printed by itself and the parts are put together; texts of types and defaults are
copied as they are.
-/

namespace EachSubject.Wrapper

/-- A type together with the names of its metadata. -/
def annotatedText (typeText : String) (annotations : List String) : String :=
  if annotations.isEmpty then typeText
  else "Annotated[" ++ typeText ++ ", " ++ ", ".intercalate annotations ++ "]"

/-- The declaration of a parameter. -/
def Parameter.declaration (p : Parameter) : String :=
  let name := p.kind.stars ++ p.name
  match p.typeText, p.default with
  | some typeText, some default =>
    name ++ ": " ++ annotatedText typeText p.annotations ++ " = " ++ default
  | some typeText, none => name ++ ": " ++ annotatedText typeText p.annotations
  | none, some default => name ++ "=" ++ default
  | none, none => name

/-- How the parameter is passed on. -/
def Parameter.argument (p : Parameter) : String :=
  match p.kind with
  | .keywordOnly => p.name ++ "=" ++ p.name
  | kind => kind.stars ++ p.name

/-- The declarations of a parameter list, with a lone star before the first keyword-only parameter
    unless a starred one came before; `starred` tells whether one has. -/
def declarations (starred : Bool) : List Parameter → List String
  | [] => []
  | p :: rest =>
    match p.kind with
    | .extraPositional => p.declaration :: declarations true rest
    | .keywordOnly =>
      if starred then p.declaration :: declarations true rest
      else "*" :: p.declaration :: declarations true rest
    | _ => p.declaration :: declarations starred rest

/-- The declared parameter list. -/
def parametersText (parameters : List Parameter) : String :=
  ", ".intercalate (declarations false parameters)

/-- The list of arguments that passes every parameter on. -/
def argumentsText (parameters : List Parameter) : String :=
  ", ".intercalate (parameters.map Parameter.argument)

/-- The word that marks a visibility; the package's own methods bear none. -/
def visibilityText : Visibility → String
  | .package => ""
  | visibility => visibility.word

/-- The text of an override. -/
def Override.text (m : Override) : String :=
  let mark := visibilityText m.visibility
  let parameters := parametersText m.parameters
  "\n    @override" ++ (if mark.isEmpty then "" else "  # " ++ mark) ++
  "\n    " ++ (if m.isAsync then "async def" else "def") ++ " " ++ m.name ++
  "(self" ++ (if parameters.isEmpty then "" else ", " ++ parameters) ++ ")" ++
  (match m.returns with
    | some returns => " -> " ++ returns
    | none => "") ++ ":" ++
  "\n        " ++ m.itemLocal ++ ": " ++ m.targetType ++
  "\n        for " ++ m.itemLocal ++ " in self._data:" ++
  "\n            " ++ m.subjectLocal ++ ": " ++ m.subjectType ++
  " = self._subject_factory.get_subject(self.failure_strategy, " ++ m.itemLocal ++ ")" ++
  "\n            " ++ (if m.isAsync then "await " else "") ++ m.subjectLocal ++ "." ++ m.name ++
  "(" ++ argumentsText m.parameters ++ ")\n"

/-- The text of a module, up to the overrides. -/
def Class.head (c : Class) : String :=
  "from __future__ import annotations\n\n" ++
  "from collections.abc import Iterable\n" ++
  "from typing import Annotated\n\n" ++
  "from typing_extensions import override\n\n" ++
  "from iterwrap.subject import FailureStrategy, SubjectFactory\n" ++
  "from " ++ c.package ++ " import " ++ c.subjectName ++ "\n\n\n" ++
  "class " ++ c.name ++ "(" ++ c.subjectName ++ "):\n\n" ++
  "    def __init__(\n" ++
  "        self,\n" ++
  "        failure_strategy: FailureStrategy,\n" ++
  "        subject_factory: SubjectFactory,\n" ++
  "        data: Iterable[" ++ c.targetType ++ "],\n" ++
  "    ) -> None:\n" ++
  "        super().__init__(failure_strategy, None)\n" ++
  "        self._subject_factory = subject_factory\n" ++
  "        self._data = data\n"

/-- The text of a module. -/
def Class.text (c : Class) : String := c.head ++ String.join (c.overrides.map Override.text)

end EachSubject.Wrapper
