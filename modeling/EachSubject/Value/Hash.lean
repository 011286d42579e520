import EachSubject.Value.Equality

/-!
# Numbers that stand for values

Equal numbers are stood for by the same number, whatever their kind: the remainder by a prime, where a
fraction counts as the quotient in the field of that prime. A tuple or a record is stood for by a
mixture of the numbers of its items, an immutable set by one that does not depend on their order. The number -1 is never used.
-/

namespace EachSubject.Value.Hash

/-- The prime, which is a power of two less one. -/
def digits : Nat := 61

def prime : Nat := Nat.pow 2 digits - 1

/-- The number 2 takes the place of -1. -/
def allowed (n : Int) : Int := if n = -1 then -2 else n

/-- A whole number. -/
def ofInt (n : Int) : Int :=
  let rest : Int := n.natAbs % prime
  allowed (if n < 0 then -rest else rest)

/-- A double. -/
def ofDouble (x : Double) : Int :=
  match x with
  | .infinite negative => if negative then -314159 else 314159
  | .nan => 0
  | x =>
    match x.toRatio? with
    | Option.none => 0
    | some (num, den) =>
      let back := (digits - Nat.log2 den % digits) % digits
      let rest : Int := (num.natAbs % prime) * (Nat.pow 2 back % prime) % prime
      allowed (if num < 0 then -rest else rest)

/-- How many numbers have 64 binary digits. -/
def size : Nat := Nat.pow 2 64

/-- A number with 64 binary digits as a signed one. -/
def signed (n : Nat) : Int := Int.bmod n size

/-- A number without its sign digit apart. -/
def unsigned (n : Int) : Nat := (n.emod size).toNat

/-- Adds the number of an item to a mixture. -/
def mix (mixture : Nat) (item : Int) : Nat :=
  let sum := (mixture + unsigned item * 14029467366897019727) % size
  let turned := (sum * Nat.pow 2 31) % size + sum / Nat.pow 2 33
  turned * 11400714785074694791 % size

/-- Several numbers as one. -/
def ofItems (items : List Int) : Int :=
  let start := 2870177450012600261
  let mixture := items.foldl mix start
  let found := (mixture + Nat.xor items.length (Nat.xor start 3527539)) % size
  if found = size - 1 then 1546275796 else signed found

/-- Spreads the digits of a number. -/
def spread (n : Nat) : Nat :=
  Nat.xor (Nat.xor n 89869747) (n * Nat.pow 2 16 % size) * 3644798167 % size

/-- Several numbers as one, whatever their order. -/
def ofUnordered (items : List Int) : Int :=
  let mixture := items.foldl (fun mixture item => Nat.xor mixture (spread (unsigned item))) 0
  let counted := Nat.xor mixture ((items.length + 1) * 1927868237 % size)
  let folded := Nat.xor counted (Nat.xor (counted / Nat.pow 2 11) (counted / Nat.pow 2 25))
  let found := (folded * 69069 + 907133923) % size
  if found = size - 1 then 590923713 else signed found

mutual

/-- The number of a value; nothing if it is not laid down. -/
def of? : Value → Option Int
  | .bool b => some (if b then 1 else 0)
  | .int _ n => some (ofInt n)
  | .float _ x => some (ofDouble x)
  | .complex _ re im =>
    some (allowed (signed (unsigned (ofDouble re + 1000003 * ofDouble im))))
  | .tuple _ items => (ofAll? items).map ofItems
  | .frozenset _ items => (ofAll? items).map ofUnordered
  | .record _ _ fields => (ofFields? fields).map ofItems
  | .range _ start stop step =>
    let count := rangeLength start stop step
    if 1 < count then some (ofItems [ofInt count, ofInt start, ofInt step]) else Option.none
  | .member _ _ value true => of? value
  | _ => Option.none

def ofFields? : List (String × Value) → Option (List Int)
  | [] => some []
  | (_, value) :: rest =>
    match of? value, ofFields? rest with
    | some first, some others => some (first :: others)
    | _, _ => Option.none

def ofAll? : List Value → Option (List Int)
  | [] => some []
  | value :: rest =>
    match of? value, ofAll? rest with
    | some first, some others => some (first :: others)
    | _, _ => Option.none

end

end EachSubject.Value.Hash
