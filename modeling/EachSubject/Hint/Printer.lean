import EachSubject.Fault
import EachSubject.Hint.Structure
import EachSubject.Value.Conversion
import EachSubject.Wrapper.Printer

/-!
# The source text of a declared type

Classes go by their full names, texts and variables by themselves, unions are written with bars, and
a type made from another is written with its arguments in brackets. A class inside a function has no
name that source text could use.
-/

namespace EachSubject

/-- A text begins somewhere in another. -/
def textInside (part : List Char) : List Char → Bool
  | [] => part.isEmpty
  | c :: rest => part.isPrefixOf (c :: rest) || textInside part rest

/-- Is defined in a function body. -/
def ClassName.isLocal (name : ClassName) : Bool :=
  textInside "<locals>".toList name.path.toList

/-- The name by which source text reaches a class. -/
def ClassName.reachable (name : ClassName) : Except Fault String :=
  if name.isLocal then .error (.refusal name.path .insideFunction) else .ok name.qualified

namespace Hint

/-- The text of a value, as part of a description. -/
def shownText (value : Value) : Except Fault String :=
  value.display.mapError .badValue

/-- One type, or nothing. -/
def isOptional (members : List Value) : Bool :=
  members.length == 2 && members.any Value.isNoneClass

/-- The name of a value that has one. -/
def nameOf (value : Value) : Except Fault String :=
  match value with
  | .class name _ => name.reachable
  | .classAlias name _ => .ok ("typing." ++ name)
  | .special name => .ok ("typing." ++ name)
  | .typeVar _ name => .ok name
  | .paramSpec name => .ok name
  | .newType module name => .ok (module ++ "." ++ name)
  | .subscripted (.native name) _ => name.reachable
  | .subscripted (.userClass name) _ => .ok (ClassName.qualified ⟨name.module, name.simple⟩)
  | .subscripted (.classAlias name _) _ => .ok ("typing." ++ name)
  | .subscripted (.special name) _ => .ok ("typing." ++ name)
  | .union .subscript members =>
    .ok (if isOptional members then "typing.Optional" else "typing.Union")
  | .literalType _ => .ok "typing.Literal"
  | .function owner name => .ok (owner.qualified ++ "." ++ name)
  | value => do throw (.refusal (← shownText value) .noName)

/-- Metadata goes by its class, or by itself if it is a class. -/
def metadataName : Value → Except Fault String
  | .class name _ => name.reachable
  | value => value.classOf.reachable

/-- The names of metadata. -/
def metadataNames (values : List Value) : Except Fault (List String) :=
  values.mapM metadataName

/-- The texts of literals. -/
def literalTexts (values : List Value) : Except Fault (List String) :=
  values.mapM shownText

/-- The name of what a type is made from. -/
def headName : TypeHead → Except Fault String
  | .native name => name.reachable
  | .userClass name => name.reachable
  | .classAlias _ name => name.reachable
  | .special name => .ok ("typing." ++ name)

mutual

/-- The source text of a declared type. -/
def format : Value → Except Fault String
  | .none => .ok "None"
  | .ellipsis => .ok "..."
  | .text _ value => .ok value
  | .member owner name value mixed =>
    match textOf? (.member owner name value mixed) with
    | some written => .ok written
    | none => shownText (.member owner name value mixed)
  | .forward value => .ok value
  | .typeVar _ name => .ok name
  | .paramSpec name => .ok name
  | .list _ items => do return "[" ++ ", ".intercalate (← formatAll items) ++ "]"
  | .tuple _ items => do return "[" ++ ", ".intercalate (← formatAll items) ++ "]"
  | .annotated base metadata => do
    let base ← format base
    return Wrapper.annotatedText base (← metadataNames metadata)
  | .union _ members => do return " | ".intercalate (← formatAll members)
  | .literalType values => do
    return "typing.Literal[" ++ ", ".intercalate (← literalTexts values) ++ "]"
  | .subscripted head args => do
    let name ← headName head
    if args.isEmpty then return name
    else
      let texts ← formatAll args
      let texts := if Value.isSpreadCallable head args then Value.callableTexts texts else texts
      return name ++ "[" ++ ", ".intercalate texts ++ "]"
  | .classAlias _ origin => origin.reachable
  | .class name _ => if name = Value.noneClass then .ok "None" else name.reachable
  | value => shownText value

/-- The source texts of declared types. -/
def formatAll : List Value → Except Fault (List String)
  | [] => .ok []
  | value :: rest => do
    let first ← format value
    return first :: (← formatAll rest)

end

end Hint

end EachSubject
