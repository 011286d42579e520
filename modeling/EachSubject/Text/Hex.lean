/-!
# Hexadecimal digits

Lower-case hexadecimal of a fixed width, and the value of a hexadecimal digit of either case.
-/

namespace EachSubject.Text

/-- The lower-case hexadecimal digit of a number below sixteen. -/
def hexDigit (n : Nat) : Char :=
  if n < 10 then Char.ofNat (48 + n) else Char.ofNat (87 + n)

/-- The last `width` hexadecimal digits of a number. -/
def paddedHex : Nat → Nat → List Char
  | 0, _ => []
  | width + 1, n => paddedHex width (n / 16) ++ [hexDigit (n % 16)]

/-- The value of a hexadecimal digit. -/
def hexValue? (c : Char) : Option Nat :=
  if '0' ≤ c && c ≤ '9' then some (c.toNat - 48)
  else if 'a' ≤ c && c ≤ 'f' then some (c.toNat - 87)
  else if 'A' ≤ c && c ≤ 'F' then some (c.toNat - 55)
  else none

/-- The value of a text of hexadecimal digits; the empty text has value zero. -/
def hexNumber? (digits : List Char) : Option Nat :=
  digits.foldlM (fun value c => (hexValue? c).map (16 * value + ·)) 0

/-- The bytes spelled by pairs of hexadecimal digits. -/
def hexBytes? : List Char → Option (List UInt8)
  | [] => some []
  | high :: low :: rest => do
    let h ← hexValue? high
    let l ← hexValue? low
    let bytes ← hexBytes? rest
    some (UInt8.ofNat (16 * h + l) :: bytes)
  | [_] => none

@[simp] theorem length_paddedHex (width n : Nat) : (paddedHex width n).length = width := by
  induction width generalizing n with
  | zero => rfl
  | succ width ih => simp [paddedHex, ih]

example : paddedHex 4 0xe9 = ['0', '0', 'e', '9'] := by decide

theorem hexValue?_hexDigit : ∀ n < 16, hexValue? (hexDigit n) = some n := by decide

/-- A number reads back from enough of its hexadecimal digits. -/
theorem hexNumber?_paddedHex : ∀ {width n : Nat}, n < Nat.pow 16 width → hexNumber? (paddedHex width n) = some n
  | 0, n, small => by
    rw [Nat.lt_one_iff.1 small]
    rfl
  | width + 1, n, small => by
    have above : n / 16 < Nat.pow 16 width := by
      change n < Nat.pow 16 width * 16 at small
      omega
    have further : hexNumber? (paddedHex width (n / 16)) = some (n / 16) := hexNumber?_paddedHex above
    rw [hexNumber?] at further ⊢
    rw [paddedHex, List.foldlM_append, further]
    simp only [Option.bind_eq_bind, Option.bind_some, List.foldlM_cons, List.foldlM_nil,
      hexValue?_hexDigit (n % 16) (Nat.mod_lt n (by decide)), Option.map_some, Option.pure_def, Option.some.injEq]
    omega

end EachSubject.Text
