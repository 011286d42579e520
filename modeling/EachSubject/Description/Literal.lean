import EachSubject.Double.Host
import EachSubject.Source.Parser.Statement
import EachSubject.Value.Conversion

/-!
# Literals

What a text of constants denotes: numbers with a sign, complex numbers as a sum, texts, bytes, and
tuples, lists, sets and dictionaries of such. Nothing has to be looked up for it but the class of sets,
by which the empty set is written. The values are made nowhere in particular.
-/

namespace EachSubject

namespace Source

/-- An expression is more than a literal. -/
def moreThanLiteral : Fault := .badValue "malformed node or string"

/-- The value of a constant. No numeral denotes what is not a number. -/
def Literal.value : Literal → Except Fault Value
  | .none => .ok .none
  | .bool value => .ok (.bool value)
  | .whole value => .ok (.int 0 value)
  | .real value => if value.isNan then .error moreThanLiteral else .ok (.float 0 value)
  | .imaginary value => if value.isNan then .error moreThanLiteral else .ok (.complex 0 (.zero false) value)
  | .text value => .ok (.text 0 value)
  | .bytes value => .ok (.bytes 0 value)
  | .ellipsis => .ok .ellipsis

namespace Expr

/-- The number of a numeral. -/
def number : Expr → Except Fault Value
  | .literal (.whole value) => Literal.value (.whole value)
  | .literal (.real value) => Literal.value (.real value)
  | .literal (.imaginary value) => Literal.value (.imaginary value)
  | _ => .error moreThanLiteral

/-- A number with the other sign. -/
def negated : Value → Value
  | .int place value => .int place (-value)
  | .float place value => .float place value.negate
  | .complex place re im => .complex place re.negate im.negate
  | value => value

/-- The number of a numeral with a sign in front of it. -/
def signedNumber (op : String) (operand : Expr) : Except Fault Value :=
  match op with
  | "+" => operand.number
  | "-" => operand.number.map negated
  | _ => .error moreThanLiteral

/-- The number of a numeral that may have a sign. -/
def realPart : Expr → Except Fault Value
  | .unary op operand => signedNumber op operand
  | e => e.number

/-- A real number as a double, which it must not lie beyond. -/
def doubleOf : Value → Except Fault Double
  | .int _ value => Value.doubleOfInt value
  | .float _ value => .ok value
  | _ => .error moreThanLiteral

/-- The complex number that a real number and an imaginary one make, joined by a plus or by a minus. -/
def complexNumber (op : String) (left right : Value) : Except Fault Value :=
  match right with
  | .complex _ re im => do
    let real : Double.Complex := (← doubleOf left, .zero false)
    let found := if op = "+" then real.plus (re, im) else real.minus (re, im)
    return .complex 0 found.1 found.2
  | _ => .error moreThanLiteral

mutual

/-- The value that an expression of constants denotes. -/
def literalValue : Expr → Except Fault Value
  | .literal constant => constant.value
  | .tuple items => do return .tuple 0 (← literalValues items)
  | .list items => do return .list 0 (← literalValues items)
  | .set items => do return .set 0 (Value.distinctItems (← literalMembers items))
  | .dict entries => do return .dict 0 (Value.distinctEntries (← literalEntries entries))
  | .call (.name "set") [] => .ok (.set 0 [])
  | .unary op operand => signedNumber op operand
  | .binary op left right => do
    if op != "+" && op != "-" then throw moreThanLiteral
    complexNumber op (← left.realPart) (← right.number)
  | _ => .error moreThanLiteral

/-- The values of the items of a display. -/
def literalValues : List Expr → Except Fault (List Value)
  | [] => .ok []
  | item :: rest => do
    let first ← literalValue item
    return first :: (← literalValues rest)

/-- The values of the members of a set, each of which has to be able to be one. -/
def literalMembers : List Expr → Except Fault (List Value)
  | [] => .ok []
  | item :: rest => do
    let first ← literalValue item
    if !first.isHashable then throw .mismatch
    return first :: (← literalMembers rest)

/-- The entries of a dictionary. -/
def literalEntries : List (Option Expr × Expr) → Except Fault (List (Value × Value))
  | [] => .ok []
  | (none, _) :: _ => .error moreThanLiteral
  | (some key, value) :: rest => do
    let key ← literalValue key
    let value ← literalValue value
    if !key.isHashable then throw .mismatch
    return (key, value) :: (← literalEntries rest)

end

end Expr

/-- The value that a text of constants denotes; blanks in front of it do not count. -/
def literalOf (text : String) : Except Fault Value := do
  if text.toList.contains nulCharacter then throw .nulCharacter
  let text := String.ofList (text.toList.dropWhile fun c => c = ' ' || c = '\t')
  (← Fault.orElse .malformed (parseExpression? text)).literalValue

end Source

end EachSubject
