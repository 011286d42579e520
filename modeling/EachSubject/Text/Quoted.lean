import EachSubject.Text.Hex
import EachSubject.Text.Printable

/-!
# Quoted text

The source form of a string or of a sequence of bytes: it stands between quotes, and a backslash
sequence replaces the quote itself, the backslash, control characters and everything else that is
not printable. The single quote is used unless the text holds a single quote and no double quote.
-/

namespace EachSubject.Text

/-- The quote that surrounds a text: single, unless only a double quote saves escaping. -/
def quoteFor (text : List Char) : Char :=
  if text.contains '\'' && !text.contains '"' then '"' else '\''

/-- The escape of a code point that is not printable: two, four or eight hexadecimal digits. -/
def escapePoint (point : Nat) : List Char :=
  if point < 0x100 then '\\' :: 'x' :: paddedHex 2 point
  else if point < 0x10000 then '\\' :: 'u' :: paddedHex 4 point
  else '\\' :: 'U' :: paddedHex 8 point

/-- One character between quotes. -/
def quotedChar (quote c : Char) : List Char :=
  if c = quote || c = '\\' then ['\\', c]
  else if c = '\t' then ['\\', 't']
  else if c = '\n' then ['\\', 'n']
  else if c = '\r' then ['\\', 'r']
  else if isPrintable c then [c]
  else escapePoint c.toNat

/-- The source form of a text, as characters. -/
def quotedChars (text : List Char) : List Char :=
  let quote := quoteFor text
  quote :: text.flatMap (quotedChar quote) ++ [quote]

/-- The source form of a text. -/
def quoted (text : String) : String := String.ofList (quotedChars text.toList)

/-- One byte between quotes: ASCII is shown, every other byte is escaped. -/
def quotedByte (quote : Char) (byte : UInt8) : List Char :=
  if byte.toNat < 128 then quotedChar quote (Char.ofNat byte.toNat)
  else escapePoint byte.toNat

/-- The source form of a sequence of bytes: as for text, after a `b`. -/
def quotedBytes (bytes : List UInt8) : String :=
  let quote := quoteFor (bytes.map fun byte => Char.ofNat byte.toNat)
  String.ofList ('b' :: quote :: bytes.flatMap (quotedByte quote) ++ [quote])

example : quoted "it's" = "\"it's\"" := by decide +kernel
example : quoted "\x01é" = "'\\x01é'" := by decide +kernel
example : quotedBytes [0x61, 0x27, 0xff] = "b\"a'\\xff\"" := by decide +kernel

end EachSubject.Text
