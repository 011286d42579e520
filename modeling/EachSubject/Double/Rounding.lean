import EachSubject.Double.Fixed
import EachSubject.Double.Host
import EachSubject.Text.Hex

/-!
# Rounded and binary forms of doubles

A double rounded to a whole number or to so many decimal places, from the middle to the even neighbour,
and the text of a double in base 16, which shows it exactly.
-/

namespace EachSubject.Double

/-- The whole number nearest to a fraction, from the middle to the even one. -/
def nearestWhole (num : Int) (den : Nat) : Int :=
  let n : Int := roundedQuotient num.natAbs den
  if num < 0 then -n else n

/-- A whole number rounded to a multiple of a power of ten, from the middle to the even one. -/
def roundedWhole (n : Int) (places : Nat) : Int :=
  let unit := Nat.pow 10 places
  nearestWhole n unit * unit

/-- A double rounded to so many decimal places; nothing if the result is beyond all doubles. -/
def rounded? (x : Double) (places : Int) : Option Double :=
  match x.toRatio? with
  | none => some x
  | some (num, den) =>
    if 323 < places || num = 0 then some x
    else if places < -308 then some (zero x.isNegative)
    else
      let scaledUp := num.natAbs * Nat.pow 10 places.toNat
      let scaledDown := den * Nat.pow 10 (-places).toNat
      let found := ofDecimal x.isNegative (roundedQuotient scaledUp scaledDown) (-places)
      if found.isFinite then some found else none

/-- The digits of a double in base 16: a sign, one digit, a point, thirteen digits, and the exponent of
    two. -/
def binaryText : Double → String
  | nan => "nan"
  | infinite negative => if negative then "-inf" else "inf"
  | finite negative mantissa exponent =>
    let sign := if negative then "-" else ""
    if mantissa = 0 then sign ++ "0x0.0p+0"
    else
      let unit := Nat.pow 2 52
      let top := exponent + 52
      let digits := Nat.toDigits 16 (mantissa % unit)
      let fraction := String.ofList (List.replicate (13 - digits.length) '0' ++ digits)
      sign ++ (if unit ≤ mantissa then "0x1." else "0x0.") ++ fraction ++ "p" ++
        (if top < 0 then "-" else "+") ++ toString top.natAbs

/-- The value and the number of digits in base 16. -/
def hexSpan (value count : Nat) : List Char → Nat × Nat × List Char
  | c :: rest =>
    match Text.hexValue? c with
    | some d => hexSpan (16 * value + d) (count + 1) rest
    | none => (value, count, c :: rest)
  | [] => (value, count, [])

/-- Reads an exponent of two, which must be all that is left. -/
def binaryExponent? : List Char → Option Int
  | [] => some 0
  | p :: rest =>
    if p = 'p' || p = 'P' then exponentPart? ('e' :: rest) else none

/-- Reads a double in base 16. -/
def ofBinaryText? (text : String) : Option Double :=
  let (negative, rest) := match text.toList with
    | '-' :: rest => (true, rest)
    | '+' :: rest => (false, rest)
    | rest => (false, rest)
  match String.ofList (rest.map Char.toLower) with
  | "inf" => some (.infinite negative)
  | "infinity" => some (.infinite negative)
  | "nan" => some .nan
  | _ =>
    let digits := match rest with
      | '0' :: 'x' :: digits => digits
      | '0' :: 'X' :: digits => digits
      | digits => digits
    let (whole, count, rest) := hexSpan 0 0 digits
    let (value, places, rest) := match rest with
      | '.' :: rest =>
        match hexSpan 0 0 rest with
        | (fraction, places, rest) => (whole * Nat.pow 16 places + fraction, places, rest)
      | rest => (whole, 0, rest)
    if count + places = 0 then none
    else
      (binaryExponent? rest).map fun written =>
        let exponent : Int := written - 4 * places
        let exponent : Int := if exponent < -5000 then -5000 else if 5000 < exponent then 5000 else exponent
        if 0 ≤ exponent then ofRatio negative (value * Nat.pow 2 exponent.toNat) 1
        else ofRatio negative value (Nat.pow 2 (-exponent).toNat)

example : nearestWhole (-5) 2 = -2 := by decide
example : roundedWhole 15 1 = 20 := by decide

end EachSubject.Double
