import EachSubject.Double.Rounding
import EachSubject.Execution.Method.Text

/-!
# Functions of numbers

What whole numbers, doubles and complex numbers have: their binary digits, their form as a fraction, the
whole numbers next to them, and their bytes.
-/

namespace EachSubject.Engine

variable (e : Engine)

/-! ## Whole numbers -/

/-- The order of bytes that a value names; true if the greatest comes first. -/
def bigFirst (value : Value) : Run Bool := do
  match String.ofList (← charsOf value) with
  | "big" => return true
  | "little" => return false
  | _ => throw (.badValue "byteorder must be either 'little' or 'big'")

/-- The longest run of bytes that a number is written to. -/
def bytesLimit : Nat := 1000000

/-- A whole number as bytes. -/
def toBytes (n : Int) (call : Call) : Run Value := do
  match ← taken [maybeNamed "length" (.int 0 1), maybeNamed "byteorder" (.text 0 "big"),
      maybeKeyword "signed" (.bool false)] call with
  | [length, order, isSigned] =>
    let length ← e.indexOf length
    let order ← bigFirst order
    let isSigned ← e.isTrue isSigned
    if length < 0 then throw (.badValue "length argument must be non-negative")
    if (bytesLimit : Int) < length then throw .overflow
    let size : Int := Nat.pow 256 length.toNat
    let fits := if isSigned then -size ≤ 2 * n && 2 * n < size else 0 ≤ n && n < size
    if !fits then throw .overflow
    Run.newBytes (Text.Encoding.unit order length.toNat (n.emod size).toNat)
  | _ => throw .mismatch

/-- The items of bytes, which may be given as numbers. -/
def byteItems (value : Value) : Run (List UInt8) := do
  match value.plain with
  | .bytes _ bytes => return bytes
  | .text .. => throw .mismatch
  | value => (← e.items value).mapM fun item => do byteOf (← e.indexOf item)

/-- A whole number from bytes. -/
def fromBytes (call : Call) : Run Value := do
  match ← taken [{ name := "bytes" }, maybeNamed "byteorder" (.text 0 "big"),
      maybeKeyword "signed" (.bool false)] call with
  | [bytes, order, isSigned] =>
    let bytes ← e.byteItems bytes
    let found : Int := Text.Encoding.ofUnit (← bigFirst order) bytes
    let size : Int := Nat.pow 256 bytes.length
    let isSigned ← e.isTrue isSigned
    Run.newInt (if isSigned && size ≤ 2 * found then found - size else found)
  | _ => throw .mismatch

/-- The whole number nearest to a value, or the value rounded to so many places. -/
def roundInt (n : Int) (places : Value) : Run Value := do
  match places with
  | .none => Run.newInt n
  | places =>
    let places ← e.indexOf places
    if 0 ≤ places then Run.newInt n
    else if (n.natAbs.log2 : Int) < -places then Run.newInt 0
    else Run.newInt (Double.roundedWhole n (-places).toNat)

/-- A fraction as a pair. -/
def ratio (num : Int) (den : Nat) : Run Value := do
  let common := Nat.gcd num.natAbs den
  let common := if common = 0 then 1 else common
  Run.newTuple [← Run.newInt (num / common), ← Run.newInt (den / common : Nat)]

/-- What a function of whole numbers gives. -/
def intMethod (n : Int) (name : String) (call : Call) : Run Value := do
  match name with
  | "to_bytes" => e.toBytes n call
  | "__round__" =>
    match ← taken [maybePlace "ndigits" .none] call with
    | [places] => e.roundInt n places
    | _ => throw .mismatch
  | name =>
    noArguments call
    match name with
    | "bit_length" => Run.newInt (if n = 0 then 0 else Nat.log2 n.natAbs + 1 : Nat)
    | "bit_count" => Run.newInt ((Nat.toDigits 2 n.natAbs).filter (· == '1')).length
    | "as_integer_ratio" => ratio n 1
    | _ =>
      if ["conjugate", "__trunc__", "__floor__", "__ceil__", "__int__", "__index__"].contains name
      then Run.newInt n
      else throw .missingAttribute

/-! ## Doubles -/

/-- The fraction that a finite double is. -/
def ratioOf (x : Double) : Run (Int × Nat) := do
  match x.toRatio? with
  | some ratio => return ratio
  | none =>
    throw (if x.isNan then .badValue "cannot convert NaN to integer" else .overflow)

/-- The whole number nearest to a double, or the double rounded to so many places. -/
def roundDouble (x : Double) (places : Value) : Run Value := do
  match places with
  | .none =>
    let (num, den) ← ratioOf x
    Run.newInt (Double.nearestWhole num den)
  | places => Run.newFloat (← Run.orFault .overflow (x.rounded? (← e.indexOf places)))

/-- What a function of doubles gives. -/
def floatMethod (x : Double) (name : String) (call : Call) : Run Value := do
  match name with
  | "__round__" =>
    match ← taken [maybePlace "ndigits" .none] call with
    | [places] => e.roundDouble x places
    | _ => throw .mismatch
  | name =>
    noArguments call
    match name with
    | "is_integer" => return .bool x.isWhole
    | "conjugate" => Run.newFloat x
    | "hex" => Run.newText x.binaryText
    | "as_integer_ratio" => do
      let (num, den) ← ratioOf x
      ratio num den
    | "__trunc__" => Run.newInt (← Run.lift (Value.wholePart x))
    | "__int__" => Run.newInt (← Run.lift (Value.wholePart x))
    | "__floor__" => do
      let (num, den) ← ratioOf x
      Run.newInt (num.fdiv den)
    | "__ceil__" => do
      let (num, den) ← ratioOf x
      Run.newInt (-((-num).fdiv den))
    | _ => throw .missingAttribute

/-- A double from its text in base 16. -/
def floatOfHex (call : Call) : Run Value := do
  let text ← charsOf (← onlyArgument call)
  match Double.ofBinaryText? (Text.strip (String.ofList text)) with
  | some x =>
    if x.isFinite || text.any fun c => c == 'n' || c == 'N' then Run.newFloat x else throw .overflow
  | none => throw (.badValue "invalid hexadecimal floating-point string")

/-! ## Complex numbers -/

/-- What a function of complex numbers gives. -/
def complexMethod (re im : Double) (name : String) (call : Call) : Run Value := do
  noArguments call
  match name with
  | "conjugate" => return .complex (← Run.freshPlace) re im.negate
  | "__complex__" => return .complex (← Run.freshPlace) re im
  | _ => throw .missingAttribute

/-- The distance of a number from zero. -/
def magnitude (value : Value) : Run Value := do
  match value.plain with
  | .bool b => Run.newInt b.toInt
  | .int _ n => Run.newInt n.natAbs
  | .float _ x => Run.newFloat (if x.isNegative then x.negate else x)
  | .complex _ re im =>
    let found := Double.Complex.absolute (re, im)
    if !found.isFinite && re.isFinite && im.isFinite then throw .overflow
    Run.newFloat found
  | _ => throw .mismatch

/-- The quotient rounded down, and the remainder. -/
def quotientAndRest (left right : Value) : Run Value := do
  let quotient ← e.plainOperator "//" left right
  Run.newTuple [quotient, ← e.plainOperator "%" left right]

/-- The number whose product with another one is 1 by a modulus. -/
def inverseBy (modulus : Nat) : Nat → Int → Int → Int → Int → Option Int
  | 0, _, _, _, _ => none
  | fuel + 1, r, s, t, u =>
    if s = 0 then (if r = 1 || modulus = 1 then some (t.emod modulus) else none)
    else inverseBy modulus fuel s (r - r / s * s) u (t - r / s * u)

/-- The power by a modulus, by repeated squaring; `fuel` bounds the binary digits of the exponent. -/
def powerBy (modulus : Nat) (found base : Nat) : Nat → Nat → Nat
  | 0, _ => found % modulus
  | fuel + 1, n =>
    if n = 0 then found % modulus
    else powerBy modulus (if n % 2 = 1 then found * base % modulus else found)
      (base * base % modulus) fuel (n / 2)

/-- The power of whole numbers by a modulus. -/
def powerModulo (base exponent modulus : Int) : Run Value := do
  if modulus = 0 then throw (.badValue "pow() 3rd argument cannot be 0")
  let size := modulus.natAbs
  let base ← if exponent < 0 then
      Run.orFault (.badValue "base is not invertible for the given modulus")
        (inverseBy size (2 * Nat.log2 size + 10) (base.emod size) size 1 0)
    else pure (base.emod size)
  let found := powerBy size 1 base.toNat (Nat.log2 exponent.natAbs + 2) exponent.natAbs
  Run.newInt (Int.fmod found modulus)

/-- A power, by a modulus if there is one. -/
def power (base exponent modulus : Value) : Run Value := do
  match modulus with
  | .none => e.binaryOperator "**" base exponent
  | modulus => do powerModulo (← wholeOf base) (← wholeOf exponent) (← wholeOf modulus)

end EachSubject.Engine
