import EachSubject.Double.Decimal

/-!
# Doubles with a fixed number of digits

Three notations: so many digits behind the point, a mantissa of so many digits with an exponent, and
the one of the two that fits the size of the number. Digits are rounded from the exact value, halves to
the even neighbour.
-/

namespace EachSubject.Double

/-- Decimal digits, at least so many. -/
def paddedDigits (count n : Nat) : List Char :=
  let digits := Nat.toDigits 10 n
  List.replicate (count - digits.length) '0' ++ digits

/-- A numeral: the digits before the point, those behind it, and an exponent with its sign. -/
structure Numeral where
  whole : List Char
  fraction : List Char
  exponent : List Char := []
deriving DecidableEq, Repr

/-- So many digits behind the point. -/
def fixedNumeral (num den places : Nat) : Numeral :=
  let digits := paddedDigits (places + 1) (roundedQuotient (num * Nat.pow 10 places) den)
  { whole := digits.take (digits.length - places), fraction := digits.drop (digits.length - places) }

/-- So many digits in all, and the exponent of the first. -/
def significantDigits (num den count : Nat) : List Char × Int :=
  if num = 0 then (List.replicate count '0', 0) else
  let top := decimalExponent num den
  let place := top - count
  let (n, d) :=
    if 0 ≤ place then (num, den * Nat.pow 10 place.toNat)
    else (num * Nat.pow 10 (-place).toNat, den)
  let digits := Nat.toDigits 10 (roundedQuotient n d)
  if digits.length ≤ count then (digits, top - 1) else (digits.take count, top)

/-- An exponent with its sign and at least two digits. -/
def exponentText (mark : Char) (exponent : Int) : List Char :=
  mark :: (if exponent < 0 then '-' else '+') :: paddedDigits 2 exponent.natAbs

/-- A mantissa with so many digits behind the point. -/
def scientificNumeral (mark : Char) (num den places : Nat) : Numeral :=
  let (digits, exponent) := significantDigits num den (places + 1)
  { whole := digits.take 1, fraction := digits.drop 1, exponent := exponentText mark exponent }

/-- So many digits in all, positional unless the exponent is below -4 or reaches `limit`. Zeros at the
    end are dropped unless they are kept. -/
def generalNumeral (mark : Char) (num den count : Nat) (limit : Int) (keepsZeros : Bool) : Numeral :=
  let count := max count 1
  let (digits, exponent) := significantDigits num den count
  let trimmed (fraction : List Char) : List Char :=
    if keepsZeros then fraction else dropTrailingZeros fraction
  if exponent < -4 || limit ≤ exponent then
    { whole := digits.take 1, fraction := trimmed (digits.drop 1)
      exponent := exponentText mark exponent }
  else if exponent < 0 then
    { whole := ['0'], fraction := trimmed (List.replicate (-exponent - 1).toNat '0' ++ digits) }
  else
    let point := exponent.toNat + 1
    { whole := digits.take point ++ List.replicate (point - digits.length) '0'
      fraction := trimmed (digits.drop point) }

example : fixedNumeral 5 2 0 = ⟨['2'], [], []⟩ := by decide
example : fixedNumeral 1 8 2 = ⟨['0'], ['1', '2'], []⟩ := by decide

end EachSubject.Double
