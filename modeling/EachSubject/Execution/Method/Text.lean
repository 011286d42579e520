import EachSubject.Execution.Method.Sequence
import EachSubject.Text.Encoding
import EachSubject.Text.Letter
import EachSubject.Text.Uppercase

/-!
# Functions of texts and bytes

What texts have besides what they share with bytes: other forms of their letters, questions about their
characters, encodings, templates and tables of replacements; and what bytes have.
-/

namespace EachSubject.Engine

variable (e : Engine)

/-! ## Encodings -/

/-- The encoding that a value names. -/
def encodingOf (value : Value) : Run Text.Encoding := do
  Run.orFault .unknownKey (Text.Encoding.ofName? (String.ofList (← charsOf value)))

/-- The characters that stand for one without bytes. -/
def mendedChar (way : String) (c : Char) : Run (List Char) := do
  match way with
  | "strict" => throw .noEncoding
  | "ignore" => return []
  | "replace" => return ['?']
  | "xmlcharrefreplace" => return ("&#" ++ toString c.toNat ++ ";").toList
  | "backslashreplace" => return Text.escapePoint c.toNat
  | _ => throw .unknownKey

/-- The bytes of a text. -/
def encoded (text : List Char) (encoding way : Value) : Run (List UInt8) := do
  let encoding ← encodingOf encoding
  let way := String.ofList (← charsOf way)
  encoding.encode (fun c => do
    (← mendedChar way c).mapM fun c => pure c.toNat.toUInt8) text

/-- The characters that stand for bytes that are none. -/
def mendedBytes (way : String) (bytes : List UInt8) : Run (List Char) := do
  match way with
  | "strict" => throw .noDecoding
  | "ignore" => return []
  | "replace" => return ['\uFFFD']
  | "backslashreplace" =>
    return bytes.flatMap fun b => ['\\', 'x'] ++ Text.paddedHex 2 b.toNat
  | _ => throw .unknownKey

/-- The text of bytes. -/
def decoded (bytes : List UInt8) (encoding way : Value) : Run Value := do
  if bytes.isEmpty then return ← Run.newText ""
  let encoding ← encodingOf encoding
  let way := String.ofList (← charsOf way)
  newChars (← encoding.decode (mendedBytes way) bytes)

/-- The parameters of what encodes and decodes. -/
def codingParameters : List FunctionParameter :=
  [maybeNamed "encoding" (.text 0 "utf-8"), maybeNamed "errors" (.text 0 "strict")]

/-! ## Texts -/

/-- The text with capitals made small and small letters made capitals. -/
def swapped (before : List Char) : List Char → List Char
  | [] => []
  | c :: rest =>
    let form := if Text.isCapital c then Text.smallInside before c rest
      else if Text.isSmall c then Text.capital c
      else [c]
    form ++ swapped (c :: before) rest

/-- The forms of a text. -/
def textForms : List (String × (String → String)) :=
  [("upper", Text.uppercase), ("lower", Text.lowercase), ("casefold", Text.casefolded),
   ("title", Text.titlecase), ("capitalize", Text.capitalized),
   ("swapcase", fun text => String.ofList (swapped [] text.toList))]

/-- Questions about the characters of a text. -/
def textTests : List (String × (List Char → Bool)) :=
  [("isascii", fun text => text.all (·.toNat < 128)),
   ("islower", Text.isLowercase), ("isupper", Text.isUppercase), ("istitle", Text.isTitlecase),
   ("isspace", Text.allOf Text.isBlank), ("isdecimal", Text.allOf Text.isDecimal),
   ("isdigit", Text.allOf Text.isDigit), ("isnumeric", Text.allOf Text.isNumber),
   ("isalpha", Text.allOf Text.isLetter), ("isalnum", Text.allOf Text.isAlphanumeric),
   ("isidentifier", fun text => Text.isIdentifierChars text),
   ("isprintable", fun text => text.all Text.isPrintable)]

/-- Ends a line of a text. -/
def endsLine (c : Char) : Bool :=
  [0x0a, 0x0b, 0x0c, 0x0d, 0x1c, 0x1d, 0x1e, 0x85, 0x2028, 0x2029].contains c.toNat

/-- The characters of texts. -/
def characters : Alphabet Char where
  read := charsOf
  part := charsOf
  make := newChars
  ofChar := id
  isBlank := Text.isBlank
  endsLine := endsLine

/-- What stands for a character by a table of replacements. -/
def translated (table : Value) (c : Char) : Run (List Char) := do
  let found ← tryCatch (do return some (← e.getItem table (← Run.newInt c.toNat))) fun fault =>
    if fault.errorClass == Fault.missingKey.errorClass ||
        fault.errorClass == Fault.outOfRange.errorClass ||
        fault.errorClass == Fault.unknownKey.errorClass then pure none
    else throw fault
  match found.map Value.plain with
  | none => return [c]
  | some .none => return []
  | some (.text _ shown) => return shown.toList
  | some (.int _ point) =>
    if point < 0 || 0x110000 ≤ point then throw (.badValue "character mapping must be in range(0x110000)")
    else return [Char.ofNat point.toNat]
  | some _ => throw .mismatch

/-- A key of a table of replacements. -/
def tableKey (key : Value) : Run Value := do
  match key.plain with
  | .text _ shown =>
    match shown.toList with
    | [c] => Run.newInt c.toNat
    | _ => throw (.badValue "string keys in translate table must be of length 1")
  | .int place n => return .int place n
  | .bool b => return .bool b
  | _ => throw .mismatch

/-- A table of replacements. -/
def translationTable (call : Call) : Run Value := do
  match ← taken [place "x", maybePlace "y" .none, maybePlace "z" .none] call with
  | [.dict _ entries, .none, .none] =>
    let entries ← entries.mapM fun (key, value) => do return (← tableKey key, value)
    return .dict (← Run.freshPlace) (Value.distinctEntries entries)
  | [sources, targets, gone] =>
    if call.positional.length = 1 then throw .mismatch
    let sources ← charsOf sources
    let targets ← charsOf targets
    if sources.length != targets.length then
      throw (.badValue "the first two maketrans arguments must have equal length")
    let gone ← if call.positional.length = 3 then charsOf gone else pure []
    let pairs ← (sources.zip targets).mapM fun (c, d) => do
      return (← Run.newInt c.toNat, ← Run.newInt d.toNat)
    let none_ ← gone.mapM fun c => do return (← Run.newInt c.toNat, Value.none)
    return .dict (← Run.freshPlace) (Value.distinctEntries (pairs ++ none_))
  | _ => throw .mismatch

/-- What a function of texts gives. -/
def textMethod (text : String) (name : String) (call : Call) : Run Value := do
  let chars := text.toList
  if let some form := textForms.lookup name then
    noArguments call
    return ← Run.newText (form text)
  if let some test := textTests.lookup name then
    noArguments call
    return .bool (test chars)
  if let some found ← characters.method? e chars name call then return found
  match name with
  | "encode" =>
    match ← taken codingParameters call with
    | [encoding, way] => Run.newBytes (← encoded chars encoding way)
    | _ => throw .mismatch
  | "format" => do
    Run.newText (← e.fillTemplate text
      { numbered := some (← Run.currentAll call.positional), named := call.keywords })
  | "format_map" =>
    match (← onlyArgument call).plain with
    | .dict _ entries =>
      let named := entries.filterMap fun (key, value) =>
        match key.plain with
        | .text _ word => some (word, value)
        | _ => none
      Run.newText (← e.fillTemplate text { numbered := none, named })
    | _ => throw .mismatch
  | "translate" =>
    let table ← onlyArgument call
    newChars (← chars.mapM (e.translated table)).flatten
  | _ => throw .missingAttribute

/-! ## Bytes -/

/-- The bytes that a value is. -/
def bytesOf (value : Value) : Run (List UInt8) := do
  match value.plain with
  | .bytes _ bytes => return bytes
  | _ => throw .mismatch

/-- A byte from a number. -/
def byteOf (n : Int) : Run UInt8 := do
  if n < 0 || 256 ≤ n then throw (.badValue "byte must be in range(0, 256)")
  return n.toNat.toUInt8

/-- A blank among bytes. -/
def isBlankByte (b : UInt8) : Bool := b == 32 || (9 ≤ b && b ≤ 13)

/-- The items of bytes. -/
def octets : Alphabet UInt8 where
  read := bytesOf
  part value := do
    match value.plain with
    | .int _ n => return [← byteOf n]
    | .bool b => return [b.toNat.toUInt8]
    | value => bytesOf value
  make := Run.newBytes
  ofChar c := c.toNat.toUInt8
  isBlank := isBlankByte
  endsLine b := b == 10 || b == 13

/-- The character that a byte stands for. -/
def charOfByte (b : UInt8) : Char := Char.ofNat b.toNat

/-- The letters among bytes are those of the first 128 characters. -/
def isCapitalByte (b : UInt8) : Bool := 65 ≤ b && b ≤ 90
def isSmallByte (b : UInt8) : Bool := 97 ≤ b && b ≤ 122
def isLetterByte (b : UInt8) : Bool := isCapitalByte b || isSmallByte b
def isDigitByte (b : UInt8) : Bool := 48 ≤ b && b ≤ 57

def capitalByte (b : UInt8) : UInt8 := if isSmallByte b then b - 32 else b
def smallByte (b : UInt8) : UInt8 := if isCapitalByte b then b + 32 else b

/-- Capitals at the start of words, small letters inside them. -/
def titleBytes (inWord : Bool) : List UInt8 → List UInt8
  | [] => []
  | b :: rest => (if inWord then smallByte b else capitalByte b) :: titleBytes (isLetterByte b) rest

/-- Words start with a capital and go on with small letters. -/
def areTitled (inWord found : Bool) : List UInt8 → Bool
  | [] => found
  | b :: rest =>
    if isCapitalByte b then !inWord && areTitled true true rest
    else if isSmallByte b then inWord && areTitled true true rest
    else areTitled false found rest

/-- The forms of bytes. -/
def bytesForms : List (String × (List UInt8 → List UInt8)) :=
  [("upper", (·.map capitalByte)), ("lower", (·.map smallByte)), ("title", titleBytes false),
   ("capitalize", fun bytes => (bytes.take 1).map capitalByte ++ (bytes.drop 1).map smallByte),
   ("swapcase", (·.map fun b => if isSmallByte b then capitalByte b else smallByte b))]

/-- Questions about bytes. -/
def bytesTests : List (String × (List UInt8 → Bool)) :=
  let all (test : UInt8 → Bool) (bytes : List UInt8) : Bool := !bytes.isEmpty && bytes.all test
  [("isascii", (·.all (· < 128))),
   ("islower", fun bytes => bytes.any isSmallByte && !bytes.any isCapitalByte),
   ("isupper", fun bytes => bytes.any isCapitalByte && !bytes.any isSmallByte),
   ("istitle", areTitled false false), ("isspace", all isBlankByte), ("isdigit", all isDigitByte),
   ("isalpha", all isLetterByte), ("isalnum", all fun b => isLetterByte b || isDigitByte b)]

/-- The digits of bytes in base 16, with a separator between groups counted from the right, or from the
    left if the size is negative. -/
def hexText (bytes : List UInt8) (separator : Option Char) (size : Int) : List Char :=
  let digits := bytes.map fun b => Text.paddedHex 2 b.toNat
  match separator with
  | none => digits.flatten
  | some c =>
    let count := digits.length
    (digits.zipIdx.map fun (pair, i) =>
      let distance := if size < 0 then i else count - i
      if i != 0 && size != 0 && distance % size.natAbs = 0 then c :: pair else pair).flatten

/-- Bytes with others in their place by a table, some left out. -/
def translateBytes (bytes : List UInt8) (call : Call) : Run Value := do
  match ← taken [place "table", maybeNamed "delete" (.bytes 0 [])] call with
  | [table, gone] =>
    let gone ← bytesOf gone
    let kept := bytes.filter (!gone.contains ·)
    match table with
    | .none => Run.newBytes kept
    | table =>
      let table ← bytesOf table
      if table.length != 256 then
        throw (.badValue "translation table must be 256 characters long")
      Run.newBytes (kept.map fun b => table.getD b.toNat b)
  | _ => throw .mismatch

/-- A table of replacements for bytes. -/
def bytesTable (call : Call) : Run Value := do
  match ← taken [place "frm", place "to"] call with
  | [sources, targets] =>
    let sources ← bytesOf sources
    let targets ← bytesOf targets
    if sources.length != targets.length then
      throw (.badValue "maketrans arguments must have same length")
    let pairs := (sources.zip targets).reverse
    Run.newBytes ((List.range 256).map fun n => (pairs.lookup n.toUInt8).getD n.toUInt8)
  | _ => throw .mismatch

/-- The bytes that a text in base 16 stands for. -/
def bytesOfHex (call : Call) : Run Value := do
  let text ← charsOf (← onlyArgument call)
  let rec pairs : List Char → Run (List UInt8)
    | [] => pure []
    | c :: rest =>
      if isBlankByte c.toNat.toUInt8 && c.toNat < 128 then pairs rest
      else
        match Text.hexValue? c, rest with
        | some a, d :: rest =>
          match Text.hexValue? d with
          | some b => do return (16 * a + b).toUInt8 :: (← pairs rest)
          | none => throw (.badValue "non-hexadecimal number found in fromhex() arg")
        | _, _ => throw (.badValue "non-hexadecimal number found in fromhex() arg")
  Run.newBytes (← pairs text)

/-- What a function of bytes gives. -/
def bytesMethod (bytes : List UInt8) (name : String) (call : Call) : Run Value := do
  if let some form := bytesForms.lookup name then
    noArguments call
    return ← Run.newBytes (form bytes)
  if let some test := bytesTests.lookup name then
    noArguments call
    return .bool (test bytes)
  if let some found ← octets.method? e bytes name call then return found
  match name with
  | "decode" =>
    match ← taken codingParameters call with
    | [encoding, way] => decoded bytes encoding way
    | _ => throw .mismatch
  | "hex" =>
    match ← taken [maybeNamed "sep" .none, maybeNamed "bytes_per_sep" (.int 0 1)] call with
    | [.none, _] => newChars (hexText bytes none 1)
    | [separator, size] =>
      let separator ← match separator.plain with
        | .text _ text => pure text.toList
        | separator => do pure ((← bytesOf separator).map charOfByte)
      match separator with
      | [c] =>
        if 128 ≤ c.toNat then throw (.badValue "sep must be ASCII.")
        newChars (hexText bytes (some c) (← wholeOf size))
      | _ => throw (.badValue "sep must be length 1.")
    | _ => throw .mismatch
  | "translate" => translateBytes bytes call
  | "__bytes__" => do
    noArguments call
    Run.newBytes bytes
  | _ => throw .missingAttribute

end EachSubject.Engine
