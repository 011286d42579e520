import EachSubject.Text.Hex

/-!
# Encodings

A text as bytes, and back. An encoding may not have bytes for every character, and not all bytes are the
text of one; what is done about those is up to the caller.
-/

namespace EachSubject.Text

/-- How characters are written as bytes. -/
inductive Encoding where
  | utf8
  | ascii
  | latin
  /-- Units of two bytes; `mark` tells that a mark of their order comes first. -/
  | utf16 (bigFirst mark : Bool)
  /-- Units of four bytes. -/
  | utf32 (bigFirst mark : Bool)
deriving DecidableEq, Repr

namespace Encoding

/-- The encodings by their names in small letters, with a hyphen between words. -/
def names : List (String × Encoding) :=
  [("utf-8", utf8), ("utf8", utf8), ("u8", utf8), ("utf", utf8), ("cp65001", utf8),
   ("ascii", ascii), ("us-ascii", ascii), ("646", ascii),
   ("latin-1", latin), ("latin1", latin), ("latin", latin), ("iso-8859-1", latin),
   ("iso8859-1", latin), ("8859", latin), ("l1", latin), ("cp819", latin),
   ("utf-16", utf16 false true), ("utf16", utf16 false true), ("u16", utf16 false true),
   ("utf-16-le", utf16 false false), ("utf-16le", utf16 false false),
   ("utf-16-be", utf16 true false), ("utf-16be", utf16 true false),
   ("utf-32", utf32 false true), ("utf32", utf32 false true), ("u32", utf32 false true),
   ("utf-32-le", utf32 false false), ("utf-32le", utf32 false false),
   ("utf-32-be", utf32 true false), ("utf-32be", utf32 true false)]

/-- The encoding of a name, however it is written. -/
def ofName? (name : String) : Option Encoding :=
  names.lookup (String.ofList (name.toList.map fun c =>
    if c = '_' || c = ' ' then '-' else c.toLower))

/-- A number as so many bytes. -/
def unit (bigFirst : Bool) (size n : Nat) : List UInt8 :=
  let bytes := (List.range size).map fun i => (n / Nat.pow 256 i % 256).toUInt8
  if bigFirst then bytes.reverse else bytes

/-- The number that bytes stand for. -/
def ofUnit (bigFirst : Bool) (bytes : List UInt8) : Nat :=
  (if bigFirst then bytes else bytes.reverse).foldl (fun n b => 256 * n + b.toNat) 0

/-- The bytes of a character, if it has some. -/
def bytes? (encoding : Encoding) (c : Char) : Option (List UInt8) :=
  let point := c.toNat
  match encoding with
  | utf8 => some c.toString.toUTF8.toList
  | ascii => if point < 128 then some [point.toUInt8] else none
  | latin => if point < 256 then some [point.toUInt8] else none
  | utf16 bigFirst _ =>
    if point < 0x10000 then some (unit bigFirst 2 point)
    else
      let rest := point - 0x10000
      some (unit bigFirst 2 (0xd800 + rest / 0x400) ++ unit bigFirst 2 (0xdc00 + rest % 0x400))
  | utf32 bigFirst _ => some (unit bigFirst 4 point)

/-- What stands in front of all characters. -/
def start : Encoding → List UInt8
  | utf16 bigFirst true => unit bigFirst 2 0xfeff
  | utf32 bigFirst true => unit bigFirst 4 0xfeff
  | _ => []

/-- The character of a code point, if there is one. -/
def charOf? (point : Nat) : Option Char :=
  if point.isValidChar then some (Char.ofNat point) else none

/-- The bytes that may follow the first byte of a character: how many there are, and the bounds of the
    next one. -/
def followers? (first : Nat) : Option (Nat × Nat × Nat) :=
  if first < 0x80 then some (0, 0, 0)
  else if first < 0xc2 then none
  else if first < 0xe0 then some (1, 0x80, 0xbf)
  else if first < 0xf0 then
    some (2, if first = 0xe0 then 0xa0 else 0x80, if first = 0xed then 0x9f else 0xbf)
  else if first < 0xf5 then
    some (3, if first = 0xf0 then 0x90 else 0x80, if first = 0xf4 then 0x8f else 0xbf)
  else none

/-- Takes so many bytes that go on with a character, the next of which lies between two bounds; or tells
    how many fit. -/
def follow (point : Nat) : Nat → Nat → Nat → Nat → List UInt8 → Except Nat Nat
  | 0, _, _, _, _ => .ok point
  | _ + 1, _, _, taken, [] => .error taken
  | count + 1, least, greatest, taken, b :: rest =>
    if least ≤ b.toNat && b.toNat ≤ greatest then
      follow (64 * point + b.toNat % 64) count 0x80 0xbf (taken + 1) rest
    else .error taken

/-- The first character of bytes and how many bytes it has, or how many bytes are none. -/
def first? (encoding : Encoding) (bytes : List UInt8) : Except Nat (Char × Nat) :=
  let whole (size : Nat) (bigFirst : Bool) : Except Nat (Char × Nat) :=
    let taken := bytes.take size
    if taken.length < size then .error taken.length
    else
      match charOf? (ofUnit bigFirst taken) with
      | some c => .ok (c, size)
      | none => .error size
  match encoding, bytes with
  | _, [] => .error 1
  | utf8, b :: rest =>
    match followers? b.toNat with
    | none => .error 1
    | some (count, least, greatest) =>
      let start := if count = 0 then b.toNat else b.toNat % Nat.pow 2 (6 - count)
      match follow start count least greatest 1 rest with
      | .ok point => .ok (Char.ofNat point, count + 1)
      | .error taken => .error taken
  | ascii, b :: _ => if b < 128 then .ok (Char.ofNat b.toNat, 1) else .error 1
  | latin, b :: _ => .ok (Char.ofNat b.toNat, 1)
  | utf16 bigFirst _, bytes =>
    let high := ofUnit bigFirst (bytes.take 2)
    let low := ofUnit bigFirst ((bytes.drop 2).take 2)
    if bytes.length < 2 then .error bytes.length
    else if 0xd800 ≤ high && high < 0xdc00 then
      if bytes.length < 4 then .error bytes.length
      else if 0xdc00 ≤ low && low < 0xe000 then
        .ok (Char.ofNat (0x10000 + (high - 0xd800) * 0x400 + (low - 0xdc00)), 4)
      else .error 2
    else whole 2 bigFirst
  | utf32 bigFirst _, _ => whole 4 bigFirst

/-- The encoding that bytes are in, and the bytes behind the mark of their order. -/
def atStart (encoding : Encoding) (bytes : List UInt8) : Encoding × List UInt8 :=
  match encoding with
  | utf16 _ true =>
    let mark := ofUnit false (bytes.take 2)
    if mark = 0xfeff then (utf16 false false, bytes.drop 2)
    else if mark = 0xfffe then (utf16 true false, bytes.drop 2)
    else (utf16 false false, bytes)
  | utf32 _ true =>
    let mark := ofUnit false (bytes.take 4)
    if mark = 0xfeff then (utf32 false false, bytes.drop 4)
    else if mark = 0xfffe0000 then (utf32 true false, bytes.drop 4)
    else (utf32 false false, bytes)
  | encoding => (encoding, bytes)

/-- The text of bytes; `mend` gives what stands for bytes that are none. -/
def decodeWith {m : Type → Type} [Monad m] (encoding : Encoding)
    (mend : List UInt8 → m (List Char)) : Nat → List UInt8 → m (List Char)
  | 0, _ => pure []
  | _, [] => pure []
  | fuel + 1, bytes => do
    match first? encoding bytes with
    | .ok (c, size) => return c :: (← decodeWith encoding mend fuel (bytes.drop (max size 1)))
    | .error size =>
      let mended ← mend (bytes.take (max size 1))
      return mended ++ (← decodeWith encoding mend fuel (bytes.drop (max size 1)))

/-- The text of bytes; `mend` gives what stands for bytes that are none. -/
def decode {m : Type → Type} [Monad m] (encoding : Encoding) (mend : List UInt8 → m (List Char))
    (bytes : List UInt8) : m (List Char) :=
  let (encoding, rest) := encoding.atStart bytes
  decodeWith encoding mend (rest.length + 1) rest

/-- The bytes of a text; `mend` gives what stands for a character without bytes. -/
def encode {m : Type → Type} [Monad m] (encoding : Encoding) (mend : Char → m (List UInt8))
    (text : List Char) : m (List UInt8) := do
  let parts ← text.mapM fun c =>
    match encoding.bytes? c with
    | some bytes => pure bytes
    | none => mend c
  return encoding.start ++ parts.flatten

end Encoding

example : Encoding.ofName? "UTF_8" = some .utf8 := by decide +kernel

end EachSubject.Text
