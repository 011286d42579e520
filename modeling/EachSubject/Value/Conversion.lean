import EachSubject.Fault
import EachSubject.Text.Digit
import EachSubject.Value.Equality
import EachSubject.Value.Printer

/-!
# Values as texts and numbers

What a value is as a text, as a whole number and as a double. A text is read as a number with blanks
around it and single underscores between its digits.
-/

namespace EachSubject.Value

/-- The text of a value where its own text is wanted, not its form in source: a text is itself, a member
    of an enumeration goes by the names of its class and its own. -/
def plainText (value : Value) : Except Fault String :=
  match value with
  | text _ shown => .ok shown
  | member owner name _ _ => .ok (owner.simple ++ "." ++ name)
  | error _ owner [text _ shown] =>
    .ok (if owner = .builtin "KeyError" then Text.quoted shown else shown)
  | error _ _ [] => .ok ""
  | error _ _ [only] => (display only).mapError .badValue
  | error _ _ several => (display (.tuple 0 several)).mapError .badValue
  | value => (display value).mapError .badValue

/-- The text of bytes, each of them a character; those beyond the first 128 have none of their own. -/
def asciiText (bytes : List UInt8) : String :=
  String.ofList (bytes.map fun b => if b < 128 then Char.ofNat b.toNat else '\uFFFD')

/-- The message about a text that is no whole number. -/
def notWholeMessage (shown : String) : String := "invalid literal for int() with base 10: " ++ shown

/-- The whole part of a double. -/
def wholePart (x : Double) : Except Fault Int :=
  match x.toRatio? with
  | some (num, den) => .ok (num.tdiv den)
  | Option.none =>
    .error (if x.isNan then .badValue "cannot convert float NaN to integer" else .overflow)

/-- The whole number that a value is converted to. -/
def wholeOf (value : Value) : Except Fault Int :=
  match value.plain with
  | bool b => .ok (if b then 1 else 0)
  | int _ n => .ok n
  | float _ x => wholePart x
  | text _ written =>
    match Text.wholeNumber? written with
    | some n => .ok n
    | Option.none => .error (.badValue (notWholeMessage (Text.quoted written)))
  | bytes _ written =>
    match Text.wholeNumber? (asciiText written) with
    | some n => .ok n
    | Option.none => .error (.badValue (notWholeMessage (Text.quotedBytes written)))
  | _ => .error .mismatch

/-- The double nearest to a whole number, if it is not beyond all doubles. -/
def doubleOfInt (n : Int) : Except Fault Double :=
  let x := Double.ofInt n
  if x.isFinite then .ok x else .error .overflow

/-- A text with its digits written as those of the first 128 characters. -/
def withPlainDigits (written : String) : String :=
  String.ofList (written.toList.map fun c =>
    match Text.digitValue? c with
    | some d => Char.ofNat (48 + d)
    | Option.none => c)

/-- The double that a value is converted to. -/
def doubleOf (value : Value) : Except Fault Double :=
  let read (written shown : String) : Except Fault Double :=
    match Double.ofText? (withPlainDigits (Text.strip written)) with
    | some x => .ok x
    | Option.none => .error (.badValue ("could not convert string to float: " ++ shown))
  match value.plain with
  | bool b => .ok (.ofInt (if b then 1 else 0))
  | int _ n => doubleOfInt n
  | float _ x => .ok x
  | text _ written => read written (Text.quoted written)
  | bytes _ written => read (asciiText written) (Text.quotedBytes written)
  | _ => .error .mismatch

/-- The value that a member of an enumeration mixed with a class of plain values gets. Several values
    count as the arguments of the conversion. -/
def mixedWith (base : ClassName) (value : Value) : Except Fault Value := do
  let value ← match value with
    | tuple _ [only] => pure only
    | tuple .. => throw .mismatch
    | value => pure value
  if base = .builtin "str" then
    match value.plain with
    | text place shown => return .text place shown
    | plain => return .text 0 (← plainText plain)
  else return .int 0 (← wholeOf value)

end EachSubject.Value
