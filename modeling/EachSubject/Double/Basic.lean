/-!
# Double precision numbers

A double is a whole number of at most 53 bits times a power of two, an infinity, or not a number.
The finite ones are kept in the one form that uses as many bits as the range of exponents allows, so
two doubles of the same sign denote the same number only if they are equal. Rounding goes to the
nearest double, and from the middle to the even one.
-/

namespace EachSubject

/-- A double precision number; `finite negative mantissa exponent` is `±mantissa · 2 ^ exponent`. -/
inductive Double where
  | finite (negative : Bool) (mantissa : Nat) (exponent : Int)
  | infinite (negative : Bool)
  | nan
deriving DecidableEq, Repr

instance : Inhabited Double := ⟨.finite false 0 (-1074)⟩

namespace Double

/-- The least exponent of a finite double. -/
def leastExponent : Int := -1074

/-- The greatest exponent of a finite double. -/
def greatestExponent : Int := 971

/-- The zero of either sign. -/
def zero (negative : Bool) : Double := .finite negative 0 leastExponent

/-- The fraction `num / den`, multiplied by `2 ^ -exponent`, as a fraction. -/
def scaled (num den : Nat) (exponent : Int) : Nat × Nat :=
  if 0 ≤ exponent then (num, den * Nat.pow 2 exponent.toNat)
  else (num * Nat.pow 2 (-exponent).toNat, den)

/-- The quotient rounded to the nearest whole number, from the middle to the even one. -/
def roundedQuotient (num den : Nat) : Nat :=
  let quotient := num / den
  let twice := 2 * (num % den)
  if twice < den then quotient
  else if den < twice then quotient + 1
  else if quotient % 2 = 0 then quotient else quotient + 1

/-- The exponent at which the quotient of two positive numbers has 53 bits, or the least one. -/
def exponentFor (num den : Nat) : Int :=
  let guess : Int := (Nat.log2 num : Int) - Nat.log2 den - 53
  let (n, d) := scaled num den guess
  let exact := if Nat.pow 2 53 ≤ n / d then guess + 1 else guess
  if exact < leastExponent then leastExponent else exact

/-- The double nearest to a fraction. -/
def ofRatio (negative : Bool) (num den : Nat) : Double :=
  if num = 0 then zero negative else
  let exponent := exponentFor num den
  let (n, d) := scaled num den exponent
  let mantissa := roundedQuotient n d
  let (mantissa, exponent) :=
    if mantissa = Nat.pow 2 53 then (Nat.pow 2 52, exponent + 1) else (mantissa, exponent)
  if greatestExponent < exponent then .infinite negative else .finite negative mantissa exponent

/-- The double nearest to a whole number. -/
def ofInt (n : Int) : Double := ofRatio (n < 0) n.natAbs 1

/-- The number of decimal digits of a number. -/
def decimalLength (n : Nat) : Nat := (Nat.toDigits 10 n).length

/-- The double nearest to `±digits · 10 ^ exponent`. -/
def ofDecimal (negative : Bool) (digits : Nat) (exponent : Int) : Double :=
  if digits = 0 then zero negative else
  let magnitude := (decimalLength digits : Int) + exponent
  if 400 < magnitude then .infinite negative
  else if magnitude < -400 then zero negative
  else if 0 ≤ exponent then ofRatio negative (digits * Nat.pow 10 exponent.toNat) 1
  else ofRatio negative digits (Nat.pow 10 (-exponent).toNat)

/-- A finite double as a fraction with a positive denominator. -/
def toRatio? : Double → Option (Int × Nat)
  | finite negative mantissa exponent =>
    let signed : Int := if negative then -(mantissa : Int) else mantissa
    if 0 ≤ exponent then some (signed * Nat.pow 2 exponent.toNat, 1)
    else some (signed, Nat.pow 2 (-exponent).toNat)
  | infinite _ => none
  | nan => none

/-- The same number with the other sign. -/
def negate : Double → Double
  | finite negative mantissa exponent => finite (!negative) mantissa exponent
  | infinite negative => infinite (!negative)
  | nan => nan

def isFinite : Double → Bool
  | finite .. => true
  | _ => false

def isNan : Double → Bool
  | nan => true
  | _ => false

/-- The whole number that the double denotes, if it denotes one. -/
def toInt? (x : Double) : Option Int :=
  match x.toRatio? with
  | some (num, den) => if num % den = 0 then some (num / den) else none
  | none => none

/-- How two numbers compare, exactly; nothing compares with what is not a number. -/
def compare? (x y : Double) : Option Ordering :=
  match x, y with
  | nan, _ => none
  | _, nan => none
  | infinite a, infinite b => some (Ord.compare b a)
  | infinite a, _ => some (if a then .lt else .gt)
  | _, infinite b => some (if b then .gt else .lt)
  | x, y =>
    match x.toRatio?, y.toRatio? with
    | some (n, d), some (m, e) => some (Ord.compare (n * e) (m * d))
    | _, _ => none

/-- How a double compares with a whole number, exactly. -/
def compareInt? (x : Double) (n : Int) : Option Ordering :=
  match x with
  | nan => none
  | infinite negative => some (if negative then .lt else .gt)
  | x => x.toRatio?.map fun (m, d) => Ord.compare m (n * d)

theorem toRatio?_isSome (x : Double) : x.toRatio?.isSome = x.isFinite := by
  cases x <;> simp [toRatio?, isFinite]
  split <;> rfl

@[simp] theorem negate_negate (x : Double) : x.negate.negate = x := by
  cases x <;> simp [negate]

end Double

end EachSubject
