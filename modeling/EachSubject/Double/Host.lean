import EachSubject.Double.Arithmetic

/-!
# Powers and angles

Functions of doubles that are not exact: they go through the machine's own numbers, which have the same
form. `ofFloat` and `toFloat` lead from one to the other without loss.
-/

namespace EachSubject.Double

/-- The machine's number for a double. -/
def toFloat : Double → Float
  | finite negative mantissa exponent =>
    let size := Float.scaleB (Float.ofNat mantissa) exponent
    if negative then -size else size
  | infinite negative => if negative then -(1.0 / 0.0) else 1.0 / 0.0
  | nan => 0.0 / 0.0

/-- The double for a number of the machine, from its sign, its exponent and its fraction. -/
def ofFloat (x : Float) : Double :=
  let bits := x.toBits.toNat
  let negative := Nat.pow 2 63 ≤ bits
  let exponent := (bits / Nat.pow 2 52) % Nat.pow 2 11
  let fraction := bits % Nat.pow 2 52
  if exponent = 2047 then if fraction = 0 then .infinite negative else .nan
  else if exponent = 0 then .finite negative fraction leastExponent
  else .finite negative (Nat.pow 2 52 + fraction) (leastExponent + (exponent : Int) - 1)

/-- The power of the machine's numbers. -/
def hostPower (x y : Double) : Double := ofFloat (Float.pow x.toFloat y.toFloat)

/-- The number is whole. -/
def isWhole (x : Double) : Bool := x.toInt?.isSome

/-- The number is whole and odd. -/
def isOdd (x : Double) : Bool :=
  match x.toInt? with
  | some n => n % 2 != 0
  | none => false

/-- A complex number as its two parts. -/
abbrev Complex := Double × Double

/-- The greatest number whose square is not above `n`, given one whose square is above and one less in
    its leading digits; `bits` more digits are found. -/
def rootDigits (n : Nat) : Nat → Nat → Nat
  | 0, found => found
  | bits + 1, found =>
    let next := found + Nat.pow 2 bits
    rootDigits n bits (if next * next ≤ n then next else found)

/-- The greatest number whose square is not above `n`. -/
def wholeRoot (n : Nat) : Nat := rootDigits n (Nat.log2 n / 2 + 1) 0

/-- The double nearest to the square root of a quotient. -/
def rootOfRatio (num den : Nat) : Double :=
  if num = 0 then .zero false
  else
    let shift := 60 + (Nat.log2 den - Nat.log2 num) / 2
    let scaled := num * Nat.pow 4 shift
    let root := wholeRoot (scaled / den)
    let rest := if root * root * den = scaled then 0 else 1
    ofRatio false (2 * root + rest) (2 * Nat.pow 2 shift)

namespace Complex

def plus (a b : Complex) : Complex := (a.1.plus b.1, a.2.plus b.2)

def minus (a b : Complex) : Complex := (a.1.minus b.1, a.2.minus b.2)

def times (a b : Complex) : Complex :=
  ((a.1.times b.1).minus (a.2.times b.2), (a.1.times b.2).plus (a.2.times b.1))

def isZero (a : Complex) : Bool := a.1.isZero && a.2.isZero

/-- The number without its sign. -/
def size (x : Double) : Double := if x.isNegative then x.negate else x

/-- The quotient, by the part of the divisor that is greater; nothing is divided by zero. -/
def quotient? (a b : Complex) : Option Complex :=
  let divided (x y : Double) : Double := (x.quotient? y).getD .nan
  if b.isZero then none
  else if (size b.2).compare? (size b.1) != some .gt then
    if b.1.isNan then some (.nan, .nan) else
    let ratio := divided b.2 b.1
    let scale := b.1.plus (b.2.times ratio)
    some (divided (a.1.plus (a.2.times ratio)) scale, divided (a.2.minus (a.1.times ratio)) scale)
  else
    let ratio := divided b.1 b.2
    let scale := (b.1.times ratio).plus b.2
    some (divided ((a.1.times ratio).plus a.2) scale, divided ((a.2.times ratio).minus a.1) scale)

/-- Multiplies by the powers of `p` that the binary digits of the exponent ask for; `fuel` bounds the
    digits. -/
def multiplyPowers (product p : Complex) : Nat → Nat → Complex
  | 0, _ => product
  | _, 0 => product
  | fuel + 1, n =>
    multiplyPowers (if n % 2 = 1 then times product p else product) (times p p) fuel (n / 2)

/-- One. -/
def one : Complex := (.ofInt 1, .zero false)

/-- The power with a natural exponent below 256, by repeated squaring. -/
def naturalPower (a : Complex) (n : Nat) : Complex := multiplyPowers one a 8 n

/-- The distance from zero. -/
def absolute (a : Complex) : Double :=
  if a.1 matches .infinite _ then .infinite false
  else if a.2 matches .infinite _ then .infinite false
  else
    match a.1.toRatio?, a.2.toRatio? with
    | some (m, d), some (n, e) =>
      rootOfRatio ((m.natAbs * e) * (m.natAbs * e) + (n.natAbs * d) * (n.natAbs * d))
        ((d * e) * (d * e))
    | _, _ => .nan

/-- The power through the angle and the distance from zero; an angle has to be finite. -/
def polarPower (a b : Complex) : Option Complex :=
  let distance := a.absolute
  let length := Float.pow distance.toFloat b.1.toFloat
  let angle := Float.atan2 a.2.toFloat a.1.toFloat
  let phase := angle * b.1.toFloat
  let (length, phase) :=
    if b.2.isZero then (length, phase)
    else (length / Float.exp (angle * b.2.toFloat),
          phase + b.2.toFloat * Float.log distance.toFloat)
  if phase.isInf then none
  else some (ofFloat (length * Float.cos phase), ofFloat (length * Float.sin phase))

/-- The power; zero has none with an exponent that is negative or no real number. -/
def power? (a b : Complex) : Option Complex :=
  if b.isZero then some one
  else if a.isZero then
    if !b.2.isZero || b.1.isNegative then none else some (.zero false, .zero false)
  else
    match b.2.isZero, b.1.toInt? with
    | true, some n =>
      if 100 < n.natAbs then polarPower a b
      else if 0 < n then some (naturalPower a n.natAbs)
      else quotient? one (naturalPower a n.natAbs)
    | _, _ => polarPower a b

end Complex

end EachSubject.Double
