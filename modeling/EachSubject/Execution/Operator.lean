import EachSubject.Execution.Format
import EachSubject.Value.Table

/-!
# Operators

What the operators give on numbers, texts, lists, sets, dictionaries and types. Whole numbers stay whole
except under division; next to a double a whole number counts as the nearest double, next to a complex
number any number as a complex one. The classes of objects may have operators of their own.
-/

namespace EachSubject.Engine

open Value (Numeric)

/-- What an operator gives, if it applies to its operands. -/
abbrev Applied (α : Type) := Option (Except Fault α)

variable (e : Engine)

/-! ## Whole numbers -/

/-- An operator on binary digits, of which a negative number has ones without end. -/
def onDigits (op : Nat → Nat → Nat) (a b : Int) : Int :=
  let size := Nat.pow 2 (max (Nat.log2 a.natAbs) (Nat.log2 b.natAbs) + 2)
  Int.bmod (op (a.emod size).toNat (b.emod size).toNat) size

/-- The operators on binary digits. -/
def digitOperator? (op : String) : Option (Nat → Nat → Nat) :=
  match op with
  | "|" => some Nat.lor
  | "&" => some Nat.land
  | "^" => some Nat.xor
  | _ => none

/-- A shift that would not fit is refused. -/
def shiftLimit : Nat := 100000000

/-- The power of a whole number. -/
def wholePower (a : Int) (n : Nat) : Int :=
  let size : Int := if a.natAbs ≤ 1 then (if n = 0 then 1 else a.natAbs) else Nat.pow a.natAbs n
  if a < 0 && n % 2 = 1 then -size else size

/-- Operators that keep whole numbers whole. -/
def wholeOperator? (op : String) (a b : Int) : Applied Int :=
  match op with
  | "+" => some (.ok (a + b))
  | "-" => some (.ok (a - b))
  | "*" => some (.ok (a * b))
  | "//" => some (if b = 0 then .error .divisionByZero else .ok (a.fdiv b))
  | "%" => some (if b = 0 then .error .divisionByZero else .ok (a.fmod b))
  | "**" => if 0 ≤ b then some (.ok (wholePower a b.toNat)) else none
  | "<<" =>
    some (if b < 0 then .error (.badValue "negative shift count")
      else if a = 0 then .ok 0
      else if (shiftLimit : Int) < b then .error .overflow
      else .ok (a * Nat.pow 2 b.toNat))
  | ">>" =>
    some (if b < 0 then .error (.badValue "negative shift count")
      else if (shiftLimit : Int) < b then .ok (if a < 0 then -1 else 0)
      else .ok (a.fdiv (Nat.pow 2 b.toNat)))
  | op => (digitOperator? op).map fun digits => .ok (onDigits digits a b)

/-! ## Doubles -/

/-- The double nearest to a number; a whole number may lie beyond all doubles. -/
def nearestDouble : Numeric → Except Fault Double
  | .real x => .ok x
  | .whole n => Value.doubleOfInt n

/-- The double nearest to the quotient of whole numbers. -/
def wholeQuotient (a b : Int) : Except Fault Double :=
  if b = 0 then .error .divisionByZero
  else
    let x := Double.ofRatio ((a < 0) != (b < 0)) a.natAbs b.natAbs
    if x.isFinite then .ok x else .error .overflow

/-- Operators on doubles. -/
def doubleOperator? (op : String) (x y : Double) : Applied Double :=
  let divided : Option Double → Applied Double
    | some z => some (.ok z)
    | none => some (.error .divisionByZero)
  match op with
  | "+" => some (.ok (x.plus y))
  | "-" => some (.ok (x.minus y))
  | "*" => some (.ok (x.times y))
  | "/" => divided (x.quotient? y)
  | "//" => divided (x.flooredQuotient? y)
  | "%" => divided (x.remainder? y)
  | _ => none

/-- The power of doubles. Zero has none with a negative exponent; that of a negative number with an
    exponent that is not whole is complex. -/
def doublePower (x y : Double) : Run Value := do
  if x.isZero && y.isNegative && !y.isNan && !y.isZero then throw .divisionByZero
  if x.isFinite && y.isFinite && x.isNegative && !x.isZero && !y.isWhole then
    match Double.Complex.power? (x, .zero false) (y, .zero false) with
    | some (re, im) => return .complex (← Run.freshPlace) re im
    | none => throw .divisionByZero
  let found := x.hostPower y
  if x.isFinite && y.isFinite && !found.isFinite then throw .overflow
  Run.newFloat found

/-- Operators on two numbers. -/
def numberOperator (op : String) (a b : Numeric) : Run Value := do
  let whole : Applied Int := match a, b with
    | .whole m, .whole n => wholeOperator? op m n
    | _, _ => none
  if let some outcome := whole then
    return ← Run.newInt (← Run.lift outcome)
  match op, a, b with
  | "/", .whole m, .whole n => Run.newFloat (← Run.lift (wholeQuotient m n))
  | "**", a, b => do doublePower (← Run.lift (nearestDouble a)) (← Run.lift (nearestDouble b))
  | op, a, b =>
    if (doubleOperator? op .nan .nan).isNone then throw .mismatch
    match doubleOperator? op (← Run.lift (nearestDouble a)) (← Run.lift (nearestDouble b)) with
    | some outcome => Run.newFloat (← Run.lift outcome)
    | none => throw .mismatch

/-! ## Complex numbers -/

/-- The number that a value is as a complex one. -/
def complexOf? (value : Value) : Run (Option Double.Complex) := do
  match value.plain with
  | .complex _ re im => return some (re, im)
  | plain =>
    match plain.numeric? with
    | some n => return some (← Run.lift (nearestDouble n), .zero false)
    | none => return none

/-- Operators on complex numbers. -/
def complexOperator (op : String) (a b : Double.Complex) : Run Value := do
  let found : Option Double.Complex := match op with
    | "+" => some (a.plus b)
    | "-" => some (a.minus b)
    | "*" => some (a.times b)
    | "/" => a.quotient? b
    | "**" => a.power? b
    | _ => none
  match found with
  | some (re, im) =>
    if op = "**" && (re matches .infinite _ || im matches .infinite _) then throw .overflow
    return .complex (← Run.freshPlace) re im
  | none => throw (if op = "/" || op = "**" then .divisionByZero else .mismatch)

/-! ## Other values -/

/-- The most items that repeating gives. -/
def repeatLimit : Nat := 100000000

def isTooMany (count : Int) : Bool := (repeatLimit : Int) < count

/-- Repeats a list. -/
def repeated {α : Type} (items : List α) (count : Int) : List α :=
  (List.replicate count.toNat items).flatten

/-- Repeats a text, bytes, a list or a tuple. -/
def repeated? (place : Nat) (count : Int) : Value → Option Value
  | .text _ text => some (.text place (String.ofList (repeated text.toList count)))
  | .bytes _ bytes => some (.bytes place (repeated bytes count))
  | .list _ items => some (.list place (repeated items count))
  | .tuple _ items => some (.tuple place (repeated items count))
  | _ => none

/-- Joins two values of one kind. -/
def joined? (place : Nat) : Value → Value → Option Value
  | .text _ a, .text _ b => some (.text place (a ++ b))
  | .bytes _ a, .bytes _ b => some (.bytes place (a ++ b))
  | .list _ a, .list _ b => some (.list place (a ++ b))
  | .tuple _ a, .tuple _ b => some (.tuple place (a ++ b))
  | _, _ => none

/-- Operators on the items of two sets. What both have is taken from the smaller one, or else from the
    second. -/
def itemsOperator? (op : String) (as bs : List Value) : Option (List Value) :=
  let isIn (items : List Value) (item : Value) : Bool := items.any (Value.matchesItem item)
  let without (items others : List Value) : List Value := items.filter (!isIn others ·)
  match op with
  | "|" => some (Value.inUnionOrder as bs)
  | "&" =>
    some (Value.inSetOrder (if as.length < bs.length then as.filter (isIn bs) else bs.filter (isIn as)))
  | "-" => some (Value.inSetOrder (without as bs))
  | "^" => some (Value.inSetOrder (without bs as ++ without as bs))
  | _ => none

/-- The items of a set, or of what is seen of a dictionary. -/
def setItems? : Value → Option (List Value)
  | .set _ items => some items
  | .frozenset _ items => some items
  | .view .keys (.dict _ entries) => some (entries.map (·.1))
  | .view .items (.dict _ entries) => some (entries.map fun (k, v) => .tuple 0 [k, v])
  | _ => none

/-- What is seen of a dictionary works with any items. -/
def isView : Value → Bool
  | .view .values _ => false
  | .view .. => true
  | _ => false

/-- Operators on two sets give a set of the kind of the first. -/
def setOperator? (op : String) (place : Nat) (left right : Value) : Option Value := do
  let items ← itemsOperator? op (← setItems? left) (← setItems? right)
  match left, right with
  | .frozenset .., .view .. => return .set place items
  | .frozenset .., _ => return .frozenset place items
  | _, _ => return .set place items

/-- A number of repetitions. -/
def count? : Value → Option Int
  | .int _ n => some n
  | .bool b => some b.toInt
  | _ => none

/-- Operators on two values of which one is not a number. -/
def otherOperator? (op : String) (place : Nat) (left right : Value) : Option Value :=
  match op with
  | "+" => joined? place left right
  | "*" =>
    match count? right, count? left with
    | some n, _ => repeated? place n left
    | _, some n => repeated? place n right
    | _, _ => none
  | op =>
    match op, left, right with
    | "|", .dict _ a, .dict _ b => some (.dict place (Value.distinctEntries (a ++ b)))
    | op, left, right => setOperator? op place left right

/-- The functions that the classes of objects have for operators. -/
def operatorNames : List (String × String) :=
  [("+", "add"), ("-", "sub"), ("*", "mul"), ("/", "truediv"), ("//", "floordiv"), ("%", "mod"),
   ("**", "pow"), ("<<", "lshift"), (">>", "rshift"), ("&", "and"), ("|", "or"), ("^", "xor"),
   ("@", "matmul")]

/-- What the classes of the operands have for an operator. -/
def binaryHook? (op : String) (left right : Value) : Run (Option Value) := do
  match operatorNames.lookup op with
  | some name =>
    match ← e.operatorHook? left ("__" ++ name ++ "__") right with
    | some found => return some found
    | none => e.operatorHook? right ("__r" ++ name ++ "__") left
  | none => return none

/-- A binary operator on two values, apart from those that their classes have. -/
def plainOperator (op : String) (left right : Value) : Run Value := do
  match left.plain, right.plain, digitOperator? op with
  | .bool a, .bool b, some digits => return .bool (digits a.toNat b.toNat != 0)
  | .text _ text, _, none =>
    if op = "%" then return ← Run.newText (String.ofList (← e.percent false text.toList right))
  | .bytes _ bytes, _, none =>
    if op = "%" then
      let chars ← e.percent true (bytes.map fun b => Char.ofNat b.toNat) right
      return ← Run.newBytes (chars.map fun c => c.toNat.toUInt8)
  | _, _, _ => pure ()
  let a := left.plain
  let b := right.plain
  match a.numeric?, b.numeric? with
  | some x, some y => numberOperator op x y
  | _, _ =>
    match a, b with
    | .complex .., _ =>
      match ← complexOf? a, ← complexOf? b with
      | some x, some y => complexOperator op x y
      | _, _ => throw .mismatch
    | _, .complex .. =>
      match ← complexOf? a, ← complexOf? b with
      | some x, some y => complexOperator op x y
      | _, _ => throw .mismatch
    | _, _ =>
      if op = "*" && ((count? a).any isTooMany || (count? b).any isTooMany) then
        throw .overflow
      match otherOperator? op (← Run.freshPlace) a b with
      | some value => return value
      | none =>
        if isView a && ["|", "&", "-", "^"].contains op then
          let items := Value.setOf (← e.items b)
          if !items.all Value.isHashable then throw .mismatch
          let found ← Run.orFault .mismatch (itemsOperator? op ((setItems? a).getD []) items)
          return .set (← Run.freshPlace) found
        else if op = "|" then Run.lift (Hint.bar left right) else throw .mismatch

/-- A binary operator on two values. -/
def binaryOperator (op : String) (left right : Value) : Run Value := do
  match ← e.binaryHook? op left right with
  | some value => return value
  | none => e.plainOperator op (← Run.current left) (← Run.current right)

/-- The value with items added, for data that can change; nothing for other data. -/
def updatedInPlace? (op : String) (left right : Value) : Run (Option Value) := do
  match op, left, right with
  | "+", .list place items, right => return some (.list place (items ++ (← e.items right)))
  | "*", .list place items, right =>
    match count? right.plain with
    | some n => return some (.list place (repeated items n))
    | none => throw .mismatch
  | "|", .dict place entries, .dict _ more =>
    return some (.dict place (Value.distinctEntries (entries ++ more)))
  | op, .set place items, right =>
    match (setItems? right).bind (itemsOperator? op items) with
    | some found => return some (.set place found)
    | none => return none
  | _, _, _ => return none

/-- A binary operator whose outcome takes the place of the left operand. -/
def updateOperator (op : String) (left right : Value) : Run Value := do
  let name := ((operatorNames.lookup op).map fun name => "__i" ++ name ++ "__").getD ""
  match ← e.operatorHook? left name right with
  | some value => return value
  | none =>
    match ← e.updatedInPlace? op (← Run.current left) (← Run.current right) with
    | some value =>
      Run.revise value
      return value
    | none => e.binaryOperator op left right

/-- A unary operator on a value. -/
def unaryOperator (op : String) (operand : Value) : Run Value := do
  if op = "not" then return .bool !(← e.isTrue operand)
  let name := match op with
    | "-" => "__neg__"
    | "+" => "__pos__"
    | _ => "__invert__"
  match ← e.callHook? operand name [] with
  | some value => return value
  | none =>
    match op, operand.plain with
    | "-", .float _ x => Run.newFloat x.negate
    | "+", .float _ x => Run.newFloat x
    | "-", .complex _ re im => return .complex (← Run.freshPlace) re.negate im.negate
    | "+", .complex _ re im => return .complex (← Run.freshPlace) re im
    | op, value =>
      match op, value.numeric? with
      | "-", some (.whole n) => Run.newInt (-n)
      | "+", some (.whole n) => Run.newInt n
      | "~", some (.whole n) => Run.newInt (-n - 1)
      | _, _ => throw .mismatch

/-! ## Comparisons -/

/-- What takes the place of a value in a comparison with another: what is seen of a dictionary is
    compared with sets like a set, and a slice with another like the tuple of its parts. -/
def asCompared (value other : Value) : Value :=
  match value, other with
  | .slice _ start stop step, .slice .. => .tuple 0 [start, stop, step]
  | value, other =>
    if isView value && (setItems? other).isSome then .set 0 ((setItems? value).getD []) else value

/-- The order of two values: by what the class of the left one has, by what the class of the right one
    has for the opposite, or by what they hold. -/
def order (name opposite : String) (orEqual : Bool) (left right lesser greater : Value) :
    Run Value := do
  match ← e.operatorHook? left name right with
  | some found => return found
  | none =>
    match ← e.operatorHook? right opposite left with
    | some found => return found
    | none =>
      let lesser ← Run.current lesser
      let greater ← Run.current greater
      return .bool (← Run.orFault .mismatch
        (Value.isBelow? orEqual (asCompared lesser greater) (asCompared greater lesser)))

/-- The outcome of a comparison of two values. -/
def comparison (op : String) (left right : Value) : Run Value := do
  match op with
  | "==" => e.equality (← Run.current left) (← Run.current right)
  | "!=" => e.inequality (← Run.current left) (← Run.current right)
  | "<" => e.order "__lt__" "__gt__" false left right left right
  | "<=" => e.order "__le__" "__ge__" true left right left right
  | ">" => e.order "__gt__" "__lt__" false left right right left
  | ">=" => e.order "__ge__" "__le__" true left right right left
  | "in" => return .bool (← e.holds right left)
  | "not in" => return .bool !(← e.holds right left)
  | "is" => return .bool (left.isSame right)
  | _ => return .bool !left.isSame right

end EachSubject.Engine
