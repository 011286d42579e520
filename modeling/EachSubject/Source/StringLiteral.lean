import EachSubject.Text.CharacterName

/-!
# Reading the body of a string

Between the quotes of a string a backslash starts an escape. An escape that is cut short or names no
character is refused; a backslash before any other character stands for itself. The bodies of byte
strings hold ASCII only.
-/

namespace EachSubject.Source

def isOctal (c : Char) : Bool := '0' ≤ c && c ≤ '7'

/-- The value of one to three octal digits. -/
def octalValue (digits : List Char) : Nat :=
  digits.foldl (fun value c => 8 * value + (c.toNat - 48)) 0

/-- The character of an escape that is one letter long. -/
def letterEscape? : Char → Option Char
  | '\\' => some '\\'
  | '\'' => some '\''
  | '"' => some '"'
  | 'a' => some '\x07'
  | 'b' => some '\x08'
  | 'f' => some '\x0c'
  | 'n' => some '\n'
  | 'r' => some '\r'
  | 't' => some '\t'
  | 'v' => some '\x0b'
  | _ => none

/-- The character at a code point; a surrogate has none and is shown as the replacement character. -/
def charAt? (point : Nat) : Option Char :=
  if 0x110000 ≤ point then none
  else if 0xD800 ≤ point && point < 0xE000 then some '\ufffd'
  else some (Char.ofNat point)

/-- The character spelled by exactly `width` hexadecimal digits, and what follows them. -/
def hexEscape? (width : Nat) (text : List Char) : Option (Char × List Char) := do
  let digits := text.take width
  if digits.length < width then none
  else some (← charAt? (← Text.hexNumber? digits), text.drop width)

/-- One escape, after its backslash: the characters it stands for, and what follows it. -/
def escape? (isBytes : Bool) : List Char → Option (List Char × List Char)
  | [] => none
  | '\n' :: rest => some ([], rest)
  | c :: rest =>
    if isOctal c then
      let digits := c :: (rest.take 2).takeWhile isOctal
      let value := octalValue digits
      some ([Char.ofNat (if isBytes then value % 256 else value)], rest.drop (digits.length - 1))
    else if c = 'x' then (hexEscape? 2 rest).map fun (d, rest) => ([d], rest)
    else if isBytes then
      match letterEscape? c with
      | some d => some ([d], rest)
      | none => some (['\\', c], rest)
    else if c = 'u' then (hexEscape? 4 rest).map fun (d, rest) => ([d], rest)
    else if c = 'U' then (hexEscape? 8 rest).map fun (d, rest) => ([d], rest)
    else if c = 'N' then
      match rest with
      | '\x7b' :: name =>
        match name.dropWhile (· != '\x7d') with
        | _ :: after => do
          let point ← Text.CharacterName.find? (name.takeWhile (· != '\x7d'))
          some ([Char.ofNat point], after)
        | [] => none
      | _ => none
    else match letterEscape? c with
      | some d => some ([d], rest)
      | none => some (['\\', c], rest)

/-- Replaces the escapes of a body; `fuel` bounds its length. -/
def unescape? (isBytes : Bool) : Nat → List Char → Option (List Char)
  | _, [] => some []
  | 0, _ => none
  | fuel + 1, '\\' :: rest => do
    let (chars, rest) ← escape? isBytes rest
    (← unescape? isBytes fuel rest) |> (chars ++ ·) |> some
  | fuel + 1, c :: rest => (unescape? isBytes fuel rest).map (c :: ·)

/-- The text that a body stands for. -/
def bodyText? (isRaw : Bool) (body : List Char) : Option (List Char) :=
  if isRaw then some body else unescape? false body.length body

/-- The bytes that a body stands for. -/
def bodyBytes? (isRaw : Bool) (body : List Char) : Option (List UInt8) :=
  if body.any (128 ≤ ·.toNat) then none
  else
    (if isRaw then some body else unescape? true body.length body).map fun chars =>
      chars.map fun c => UInt8.ofNat c.toNat

end EachSubject.Source
