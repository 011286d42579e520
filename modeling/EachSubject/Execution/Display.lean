import EachSubject.Execution.Iteration
import EachSubject.Text.Printable

/-!
# Texts of values

What a value shows is decided by its class if that has a function for it, and by what the value holds if
not.
-/

namespace EachSubject.Engine

variable (e : Engine)

/-- The text of an object that its class has a function for. -/
def hookText? (name : String) (value : Value) : Run (Option String) := do
  match ← e.callHook? value name [] with
  | none => return none
  | some shown =>
    match shown.plain with
    | .text _ text => return some text
    | _ => throw .mismatch

/-- The text of an object without a function for it. -/
def objectText (value : Value) : Run String := do
  match value with
  | .reference id owner =>
    match ← recordFields? owner with
    | some names =>
      let own ← Run.attributes id
      let fields ← names.mapM fun name => do
        match own.lookup name with
        | some field =>
          match (← Run.current field).display with
          | .ok shown => return name ++ "=" ++ shown
          | .error message => throw (.badValue message)
        | none => throw .missingAttribute
      return owner.path ++ "(" ++ ", ".intercalate fields ++ ")"
    | none => return (value.display.toOption).getD ""
  | value =>
    match value.display with
    | .ok shown => return shown
    | .error message => throw (.badValue message)

/-- The objects inside a value that show a text of their own, replaced by that text; `fuel` bounds how
    deep it looks. -/
def withTexts : Nat → Value → Run Value
  | 0, value => pure value
  | fuel + 1, value => do
    match value with
    | .list place items => return .list place (← items.mapM (withTexts fuel))
    | .tuple place items => return .tuple place (← items.mapM (withTexts fuel))
    | .dict place entries =>
      return .dict place (← entries.mapM fun (k, v) => do
        return (← withTexts fuel k, ← withTexts fuel v))
    | .set place items => return .set place (← items.mapM (withTexts fuel))
    | .frozenset place items => return .frozenset place (← items.mapM (withTexts fuel))
    | .record place owner fields =>
      return .record place owner (← fields.mapM fun (n, v) => do return (n, ← withTexts fuel v))
    | .reference _ owner =>
      match ← e.hookText? "__repr__" value with
      | some shown => return .foreign owner shown
      | none => return .foreign owner (← objectText value)
    | value => return value

/-- The text of a value; an object may have a function of its own for it. -/
def textOf (value : Value) : Run String := do
  match ← e.hookText? "__repr__" value with
  | some shown => return shown
  | none =>
    match value with
    | .reference .. => objectText value
    | value => objectText (← e.withTexts Run.dataDepth (← Run.current value))

/-- The text of a value inside another text: a text stands for itself, a member of an enumeration for
    its name. -/
def plainTextOf (value : Value) : Run String := do
  match value with
  | .text _ shown => return shown
  | .member owner name _ _ => return owner.simple ++ "." ++ name
  | .error .. => Run.lift (Value.plainText value)
  | .reference .. =>
    match ← e.hookText? "__str__" value with
    | some shown => return shown
    | none => e.textOf value
  | value => e.textOf value

/-- A text in the first 128 characters alone, the others written as numbers. -/
def asciiOnly (text : String) : String :=
  String.ofList (text.toList.flatMap fun c =>
    if c.toNat < 128 then [c] else Text.escapePoint c.toNat)

end EachSubject.Engine
