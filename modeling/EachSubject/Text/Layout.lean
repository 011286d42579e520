/-!
# Layouts

A layout tells how a text or a number is written: in which width, filled with which character and on
which side, with which sign, grouped by which separator, to which precision and in which notation.
-/

namespace EachSubject.Text

/-- Where a text stands in a wider space. -/
inductive Alignment where
  | left
  | right
  | middle
  /-- To the right, with the sign of a number to the left. -/
  | behindSign
deriving DecidableEq, Repr

structure Layout where
  fill : Char := ' '
  alignment : Option Alignment := none
  sign : Option Char := none
  /-- A zero has no minus sign. -/
  joinsZeros : Bool := false
  isAlternate : Bool := false
  /-- Numbers are filled with zeros behind their sign. -/
  fillsZeros : Bool := false
  width : Nat := 0
  grouping : Option Char := none
  precision : Option Nat := none
  notation? : Option Char := none
deriving DecidableEq, Repr

namespace Layout

def alignmentOf? : Char → Option Alignment
  | '<' => some .left
  | '>' => some .right
  | '^' => some .middle
  | '=' => some .behindSign
  | _ => none

/-- Reads a number of decimal digits. -/
def number (value : Nat) : List Char → Nat × List Char
  | [] => (value, [])
  | c :: rest => if c.isDigit then number (10 * value + (c.toNat - 48)) rest else (value, c :: rest)

/-- Takes a character off if it is there. -/
def take (c : Char) : List Char → Bool × List Char
  | [] => (false, [])
  | d :: rest => if c == d then (true, rest) else (false, d :: rest)

/-- The fill and the side that a layout starts with. -/
def start : List Char → Option (Option Char × Alignment) × List Char
  | c :: d :: rest =>
    match alignmentOf? d, alignmentOf? c with
    | some side, _ => (some (some c, side), rest)
    | none, some side => (some (none, side), d :: rest)
    | none, none => (none, c :: d :: rest)
  | [c] =>
    match alignmentOf? c with
    | some side => (some (none, side), [])
    | none => (none, [c])
  | [] => (none, [])

/-- Reads a layout; nothing if it is none. -/
def ofText? (text : String) : Option Layout :=
  let (begin?, rest) := start text.toList
  let (sign, rest) := match rest with
    | '+' :: rest => (some '+', rest)
    | '-' :: rest => (some '-', rest)
    | ' ' :: rest => (some ' ', rest)
    | rest => (none, rest)
  let (joinsZeros, rest) := take 'z' rest
  let (isAlternate, rest) := take '#' rest
  let fillGiven := (begin?.bind (·.1)).isSome
  let (startsZero, rest) :=
    if fillGiven then (false, rest) else take '0' rest
  let (width, rest) := number 0 rest
  let (comma, rest) := take ',' rest
  let (underscore, rest) := take '_' rest
  let (again, rest) := take ',' rest
  let (point, afterPoint) := take '.' rest
  let (precision, rest) :=
    if point then
      let (value, left) := number 0 afterPoint
      (if left.length = afterPoint.length then none else some value, left)
    else (none, rest)
  if (comma && underscore) || again || (point && precision.isNone) then none else
  let layout (type : Option Char) : Layout :=
    { fill := ((begin?.bind (·.1)).getD (if startsZero then '0' else ' '))
      alignment := (begin?.map (·.2)), sign, joinsZeros, isAlternate
      fillsZeros := startsZero && begin?.isNone
      width, grouping := if comma then some ',' else if underscore then some '_' else none
      precision, notation? := type }
  match rest with
  | [] => some (layout none)
  | [c] => some (layout (some c))
  | _ => none

/-- A text in its space. -/
def place (l : Layout) (otherwise : Alignment) (text : List Char) : List Char :=
  let missing := l.width - text.length
  match l.alignment.getD otherwise with
  | .left => text ++ List.replicate missing l.fill
  | .middle => List.replicate (missing / 2) l.fill ++ text ++ List.replicate (missing - missing / 2) l.fill
  | _ => List.replicate missing l.fill ++ text

/-- Digits in groups from the right. -/
def grouped (separator : Char) (size : Nat) (digits : List Char) : List Char :=
  ((digits.reverse.zipIdx).flatMap fun (d, i) =>
    if i != 0 && i % size = 0 then [separator, d] else [d]).reverse

/-- The digits before the point, grouped, with zeros in front up to a length in all. -/
def wholePart (l : Layout) (size length : Nat) (digits : List Char) : List Char :=
  match l.grouping with
  | none => List.replicate (length - digits.length) '0' ++ digits
  | some separator =>
    let written := grouped separator size digits
    if length ≤ written.length then written
    else
      -- A separator needs a digit in front of it.
      let zeros := List.replicate (length - written.length) '0'
      let candidates := (List.range (zeros.length + 1)).map fun n =>
        grouped separator size (List.replicate n '0' ++ digits)
      (candidates.find? fun c => length ≤ c.length).getD written

/-- A number in its space: its sign, what stands in front of its digits, the digits before the point,
    and the rest. -/
def placeNumber (l : Layout) (size : Nat) (sign start digits rest : List Char) : List Char :=
  let fillsZeros := l.fillsZeros || (l.alignment == some .behindSign && l.fill == '0')
  if fillsZeros then
    let taken := sign.length + start.length + rest.length
    sign ++ start ++ l.wholePart size (l.width - taken) digits ++ rest
  else
    let body := l.wholePart size 0 digits ++ rest
    match l.alignment with
    | some .behindSign =>
      let missing := l.width - (sign.length + start.length + body.length)
      sign ++ start ++ List.replicate missing l.fill ++ body
    | _ => l.place .right (sign ++ start ++ body)

/-- The sign of a number. -/
def signOf (l : Layout) (negative : Bool) : List Char :=
  if negative then ['-']
  else
    match l.sign with
    | some '+' => ['+']
    | some ' ' => [' ']
    | _ => []

end Layout

end EachSubject.Text
