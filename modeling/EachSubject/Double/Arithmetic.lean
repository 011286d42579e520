import EachSubject.Double.Basic

/-!
# Arithmetic of doubles

Each operation gives the double nearest to the exact outcome. A difference is the sum with the negated
number; a remainder has the sign of the divisor, so that the quotient next to it is rounded down.
-/

namespace EachSubject.Double

/-- Has a minus sign; a zero may have one, too. -/
def isNegative : Double → Bool
  | finite negative .. => negative
  | infinite negative => negative
  | nan => false

def isZero : Double → Bool
  | finite _ mantissa _ => mantissa == 0
  | _ => false

/-- Infinities of both signs have no sum; a sum that cancels out is the positive zero. -/
def plus (x y : Double) : Double :=
  match x, y with
  | nan, _ => nan
  | _, nan => nan
  | infinite a, infinite b => if a = b then infinite a else nan
  | infinite a, _ => infinite a
  | _, infinite b => infinite b
  | x, y =>
    match x.toRatio?, y.toRatio? with
    | some (n, d), some (m, e) =>
      let sum := n * e + m * d
      if sum = 0 then zero (x.isNegative && y.isNegative) else ofRatio (sum < 0) sum.natAbs (d * e)
    | _, _ => nan

def minus (x y : Double) : Double := x.plus y.negate

/-- Zero times an infinity is no number. -/
def times (x y : Double) : Double :=
  let negative := x.isNegative != y.isNegative
  match x, y with
  | nan, _ => nan
  | _, nan => nan
  | infinite _, y => if y.isZero then nan else infinite negative
  | x, infinite _ => if x.isZero then nan else infinite negative
  | x, y =>
    match x.toRatio?, y.toRatio? with
    | some (n, d), some (m, e) => ofRatio negative (n * m).natAbs (d * e)
    | _, _ => nan

/-- The quotient by a divisor that is not zero; nothing is divided by zero. -/
def quotient? (x y : Double) : Option Double :=
  if y.isZero then none else
  let negative := x.isNegative != y.isNegative
  match x, y with
  | nan, _ => some nan
  | _, nan => some nan
  | infinite _, infinite _ => some nan
  | infinite _, _ => some (infinite negative)
  | _, infinite _ => some (zero negative)
  | x, y =>
    match x.toRatio?, y.toRatio? with
    | some (n, d), some (m, e) => some (ofRatio negative (n * e).natAbs (d * m.natAbs))
    | _, _ => some nan

/-- What is left of a number when a multiple of the divisor is taken away, with the sign of the
    number; it is exact. -/
def truncatedRemainder (x y : Double) : Double :=
  match x, y with
  | x, infinite _ => if x.isFinite then x else nan
  | x, y =>
    match x.toRatio?, y.toRatio? with
    | some (n, d), some (m, e) => ofRatio x.isNegative ((n * e).tmod (m * d)).natAbs (d * e)
    | _, _ => nan

/-- A remainder that is moved to the sign of the divisor has its quotient moved down by one. -/
def isMoved (rest y : Double) : Bool := !rest.isZero && rest.isNegative != y.isNegative

/-- The remainder with the sign of the divisor; nothing is divided by zero. -/
def remainder? (x y : Double) : Option Double :=
  if y.isZero then none else
  let rest := x.truncatedRemainder y
  if rest.isZero then some (zero y.isNegative)
  else if isMoved rest y then some (rest.plus y)
  else some rest

/-- The greatest whole number that is not above the double. -/
def floor (x : Double) : Double :=
  match x.toRatio? with
  | some (num, den) => ofInt (num.fdiv den)
  | none => x

/-- The quotient that goes with the remainder, a whole number; nothing is divided by zero. -/
def flooredQuotient? (x y : Double) : Option Double := do
  let rest := x.truncatedRemainder y
  let exact ← (x.minus rest).quotient? y
  let moved := if isMoved rest y then exact.minus (ofInt 1) else exact
  if moved.isZero then
    return zero (x.isNegative != y.isNegative)
  let down := moved.floor
  match (moved.minus down).compare? (ofRatio false 1 2) with
  | some .gt => return down.plus (ofInt 1)
  | _ => return down

theorem quotient?_eq_none_iff (x y : Double) : x.quotient? y = none ↔ y.isZero = true := by
  unfold quotient?
  split
  · simp_all
  · split <;> simp_all
    split <;> simp_all

theorem remainder?_eq_none_iff (x y : Double) : x.remainder? y = none ↔ y.isZero = true := by
  unfold remainder?
  grind

end EachSubject.Double
