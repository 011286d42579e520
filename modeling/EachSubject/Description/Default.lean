import EachSubject.Description.Literal
import EachSubject.Hint.Printer
import EachSubject.Text.Quoted
import EachSubject.World.Function

/-!
# The source text of a default

A default is written out if its text is a literal that denotes an equal value of the same class. Any
other default is read back from where the method itself keeps it: by its place among the defaults of the
positional parameters, or by its name among those of the keyword-only ones. The text then gives the very
same object.
-/

namespace EachSubject

namespace Description

/-- The errors after which a text counts as no literal. -/
def literalErrors : List ClassName :=
  ["ValueError", "TypeError", "SyntaxError", "MemoryError", "RecursionError"].map .builtin

/-- The text is a literal that denotes an equal value of the same class. Some literals cannot be worked
    out; then there is no answer. -/
def isLiteral (text : String) (value : Value) : Except Fault Bool :=
  match Source.literalOf text with
  | .ok parsed => .ok (parsed.classOf == value.classOf && parsed.isEqual value)
  | .error fault => if literalErrors.contains fault.errorClass then .ok false else .error fault

/-- The place of a parameter among the positional ones that have a default. -/
def defaultIndex? (f : Function) (name : String) : Option Nat :=
  f.defaulted.findIdx? (·.name == name)

/-- What a function keeps for a parameter is its default. An undecorated function keeps the defaults of
    its signature; any other one has to keep the very same object. -/
def keeps (f : Function) (kept value : Value) : Bool := f.wrapping.isNone || kept.isSame value

/-- Where the function itself keeps the default of a parameter, as seen from `reference`; only if it
    keeps the very same object. -/
def storedDefault? (f : Function) (reference : String) (p : FunctionParameter) (value : Value) :
    Option String :=
  if p.mode = .keywordOnly then
    match f.storedKeywordDefaults.lookup p.name with
    | some kept =>
      if keeps f kept value then
        some (reference ++ ".__kwdefaults__[" ++ Text.quoted p.name ++ "]")
      else none
    | none => none
  else
    match defaultIndex? f p.name with
    | some index =>
      match f.storedDefaults[index]? with
      | some kept =>
        if keeps f kept value then
          some (reference ++ ".__defaults__[" ++ toString index ++ "]")
        else none
      | none => none
    | none => none

/-- The source text of a parameter's default, if it has one. `reference` is the name of the method as
    the generated module sees it. -/
def defaultText (f : Function) (reference : String) (p : FunctionParameter) :
    Except Fault (Option String) :=
  match p.default with
  | none => .ok none
  | some value => do
    let text ← Hint.shownText value
    if ← isLiteral text value then return some text
    else
      match storedDefault? f reference p value with
      | some source => return some source
      | none => throw (.refusal ("parameter " ++ Text.quoted p.name) (.lostDefault text))

end Description

end EachSubject
