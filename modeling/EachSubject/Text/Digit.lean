import EachSubject.Text.Ranges

/-!
# Decimal digits and whole numbers

Every script's decimal digits count, ten consecutive code points to a set. `wholeNumber?` reads the
text of an integer: blanks around it, an optional sign, and digits with single underscores between
them.
-/

namespace EachSubject.Text

/-- The zero of each set of decimal digits. -/
def digitZeros : List Nat :=
  [0x30, 0x660, 0x6f0, 0x7c0, 0x966, 0x9e6, 0xa66, 0xae6, 0xb66,
   0xbe6, 0xc66, 0xce6, 0xd66, 0xde6, 0xe50, 0xed0, 0xf20, 0x1040,
   0x1090, 0x17e0, 0x1810, 0x1946, 0x19d0, 0x1a80, 0x1a90, 0x1b50, 0x1bb0,
   0x1c40, 0x1c50, 0xa620, 0xa8d0, 0xa900, 0xa9d0, 0xa9f0, 0xaa50, 0xabf0,
   0xff10, 0x104a0, 0x10d30, 0x11066, 0x110f0, 0x11136, 0x111d0, 0x112f0, 0x11450,
   0x114d0, 0x11650, 0x116c0, 0x11730, 0x118e0, 0x11950, 0x11c50, 0x11d50, 0x11da0,
   0x16a60, 0x16ac0, 0x16b50, 0x1d7ce, 0x1d7d8, 0x1d7e2, 0x1d7ec, 0x1d7f6, 0x1e140,
   0x1e2f0, 0x1e950, 0x1fbf0]

/-- The value of a decimal digit of any script. -/
def digitValue? (c : Char) : Option Nat :=
  (digitZeros.find? fun first => first ≤ c.toNat && c.toNat < first + 10).map (c.toNat - ·)

/-- Reads digits in which an underscore may stand between two digits, from the value read so far. -/
def digitRun? (value : Nat) : List Char → Option Nat
  | [] => some value
  | '_' :: c :: rest => do digitRun? (10 * value + (← digitValue? c)) rest
  | c :: rest => do digitRun? (10 * value + (← digitValue? c)) rest

/-- Reads a run of digits that starts with a digit. -/
def naturalNumber? : List Char → Option Nat
  | [] => none
  | c :: rest => do digitRun? (← digitValue? c) rest

/-- White space that may surround the text of an integer: the blanks without the information
    separators. -/
def isNumberBlank (c : Char) : Bool := isBlank c && !(0x1c ≤ c.toNat && c.toNat ≤ 0x1f)

/-- The longest run of digits that an integer's text may have. -/
def digitLimit : Nat := 4300

/-- The integer that a text denotes, if it denotes one. -/
def wholeNumber? (text : String) : Option Int :=
  let inner := ((text.toList.dropWhile isNumberBlank).reverse.dropWhile isNumberBlank).reverse
  let count := (inner.filter fun c => (digitValue? c).isSome).length
  if digitLimit < count then none else
  match inner with
  | '-' :: digits => (naturalNumber? digits).map fun n => -(n : Int)
  | '+' :: digits => (naturalNumber? digits).map Int.ofNat
  | digits => (naturalNumber? digits).map Int.ofNat

example : wholeNumber? " -1_2 " = some (-12) := by decide +kernel
example : wholeNumber? "1__2" = none := by decide +kernel
example : wholeNumber? "_1" = none := by decide +kernel
example : wholeNumber? "" = none := by decide +kernel

end EachSubject.Text
