import EachSubject.Double.Basic

/-!
# Doubles as decimal text

`ofText?` reads a decimal numeral, an infinity or "nan". `shortest` writes the fewest decimal digits
that read back as the same double, and of several such digits the nearest; the notation is
positional from `10 ^ -4` up to below `10 ^ 16` and scientific elsewhere.
-/

namespace EachSubject.Double

/-! ## Writing -/

/-- The two neighbours of `num / den` on the grid of multiples of `10 ^ place`, the nearer first and
    of two equally near the even one. -/
def neighbours (num den : Nat) (place : Int) : List Nat :=
  let (n, d) :=
    if 0 ≤ place then (num, den * Nat.pow 10 place.toNat)
    else (num * Nat.pow 10 (-place).toNat, den)
  let below := n / d
  if roundedQuotient n d = below then [below, below + 1] else [below + 1, below]

/-- The decimal exponent of the first digit: `10 ^ (result - 1) ≤ num / den < 10 ^ result`. -/
def decimalExponent (num den : Nat) : Int :=
  if den ≤ num then decimalLength (num / den)
  else
    -- `num / den < 1`: the numbers of digits differ by the exponent or by one less.
    let guess : Int := (decimalLength num : Int) - decimalLength den
    if num * Nat.pow 10 (-guess).toNat < den then guess else guess + 1

/-- Digits and place of the shortest numeral that reads back, trying `count` more lengths. -/
def shortestFrom (num den : Nat) (top : Int) (length : Nat) : Nat → Nat × Int
  | 0 => (num / den, 0)
  | count + 1 =>
    let place := top - length
    match (neighbours num den place).find? fun digits =>
        ofDecimal false digits place == ofRatio false num den with
    | some digits => (digits, place)
    | none => shortestFrom num den top (length + 1) count

/-- Decimal digits without trailing zeros, and the place of the last one. -/
def shortestDecimal (num den : Nat) : Nat × Int :=
  shortestFrom num den (decimalExponent num den) 1 17

/-- Digits without the zeros at their end. -/
def dropTrailingZeros (digits : List Char) : List Char :=
  (digits.reverse.dropWhile (· == '0')).reverse

/-- The numeral of a positive number with the given digits, the first of which stands before the
    power `10 ^ (point - 1)`. -/
def layout (digits : List Char) (point : Int) : String :=
  let count : Int := digits.length
  if -4 < point && point ≤ 16 then
    if point ≤ 0 then
      String.ofList (['0', '.'] ++ List.replicate (-point).toNat '0' ++ digits)
    else if count ≤ point then
      String.ofList (digits ++ List.replicate (point - count).toNat '0' ++ ['.', '0'])
    else
      String.ofList (digits.take point.toNat ++ '.' :: digits.drop point.toNat)
  else
    let power := point - 1
    let sign := if power < 0 then '-' else '+'
    let size := Nat.toDigits 10 power.natAbs
    let size := if size.length < 2 then '0' :: size else size
    let mantissa := match digits with
      | [] => []
      | [d] => [d]
      | d :: rest => d :: '.' :: rest
    String.ofList (mantissa ++ 'e' :: sign :: size)

/-- The shortest decimal text that reads back as the double. -/
def shortest : Double → String
  | nan => "nan"
  | infinite negative => if negative then "-inf" else "inf"
  | finite negative mantissa exponent =>
    let sign := if negative then "-" else ""
    if mantissa = 0 then sign ++ "0.0" else
    match (finite false mantissa exponent).toRatio? with
    | none => sign
    | some (num, den) =>
      let (digits, place) := shortestDecimal num.toNat den
      let written := Nat.toDigits 10 digits
      sign ++ layout (dropTrailingZeros written) (written.length + place)

/-! ## Reading -/

/-- Reads decimal digits with single underscores between them: their value and number. -/
def digitSpan (value count : Nat) : List Char → Nat × Nat × List Char
  | '_' :: c :: rest =>
    if 0 < count && c.isDigit then digitSpan (10 * value + (c.toNat - 48)) (count + 1) rest
    else (value, count, '_' :: c :: rest)
  | c :: rest =>
    if c.isDigit then digitSpan (10 * value + (c.toNat - 48)) (count + 1) rest
    else (value, count, c :: rest)
  | [] => (value, count, [])

/-- Reads the exponent of a numeral, which must be all that is left. -/
def exponentPart? : List Char → Option Int
  | [] => some 0
  | e :: rest =>
    if e = 'e' || e = 'E' then
      let (negative, digits) := match rest with
        | '-' :: digits => (true, digits)
        | '+' :: digits => (false, digits)
        | digits => (false, digits)
      match digitSpan 0 0 digits with
      | (_, 0, _) => none
      | (value, _, []) => some (if negative then -(value : Int) else value)
      | _ => none
    else none

/-- Reads an unsigned decimal numeral: digits, a point, digits, an exponent; some digit is needed. -/
def numeral? (negative : Bool) (text : List Char) : Option Double :=
  let (whole, count, rest) := digitSpan 0 0 text
  let (value, places, rest) := match rest with
    | '.' :: rest =>
      match digitSpan 0 0 rest with
      | (fraction, places, rest) => (whole * Nat.pow 10 places + fraction, places, rest)
    | rest => (whole, 0, rest)
  if count + places = 0 then none
  else (exponentPart? rest).map fun exponent => ofDecimal negative value (exponent - places)

/-- Reads a number: a sign, then a decimal numeral, "inf", "infinity" or "nan" in any letter case. -/
def ofText? (text : String) : Option Double :=
  let (negative, rest) := match text.toList with
    | '-' :: rest => (true, rest)
    | '+' :: rest => (false, rest)
    | rest => (false, rest)
  match String.ofList (rest.map Char.toLower) with
  | "inf" => some (.infinite negative)
  | "infinity" => some (.infinite negative)
  | "nan" => some .nan
  | _ => numeral? negative rest

end EachSubject.Double
