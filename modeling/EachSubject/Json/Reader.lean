import EachSubject.Json.Basic
import EachSubject.Double.Decimal
import EachSubject.Text.Hex

/-!
# Reading JSON

`Json.read?` reads one document with nothing but white space around it. It refuses control
characters and lone surrogates in strings, leading zeros, trailing commas, and documents that nest
deeper than the given bound; besides the standard's numbers it takes `NaN`, `Infinity` and
`-Infinity`.
-/

namespace EachSubject.Json

def isSpace (c : Char) : Bool := c == ' ' || c == '\t' || c == '\n' || c == '\r'

def skipSpace (text : List Char) : List Char := text.dropWhile isSpace

/-- The rest of the text after an expected word. -/
def dropWord? : List Char → List Char → Option (List Char)
  | [], text => some text
  | c :: word, d :: text => if c = d then dropWord? word text else none
  | _ :: _, [] => none

/-! ## Strings -/

/-- The character that a single-letter escape stands for. -/
def simpleEscape? : Char → Option Char
  | '"' => some '"'
  | '\\' => some '\\'
  | '/' => some '/'
  | 'b' => some '\x08'
  | 'f' => some '\x0c'
  | 'n' => some '\n'
  | 'r' => some '\r'
  | 't' => some '\t'
  | _ => none

/-- Reads the characters of a string after its opening quote, up to and with the closing one. -/
def stringRest? : List Char → Option (List Char × List Char)
  | [] => none
  | '"' :: rest => some ([], rest)
  | '\\' :: 'u' :: a :: b :: c :: d :: rest =>
    match hexOf [a, b, c, d] with
    | none => none
    | some unit =>
      if 0xD800 ≤ unit && unit < 0xDC00 then
        match rest with
        | '\\' :: 'u' :: e :: f :: g :: h :: after =>
          match hexOf [e, f, g, h] with
          | some low =>
            if 0xDC00 ≤ low && low < 0xE000 then
              let point := 0x10000 + (unit - 0xD800) * 0x400 + (low - 0xDC00)
              (stringRest? after).map fun (chars, rest) => (Char.ofNat point :: chars, rest)
            else none
          | none => none
        | _ => none
      else if 0xDC00 ≤ unit && unit < 0xE000 then none
      else (stringRest? rest).map fun (chars, rest) => (Char.ofNat unit :: chars, rest)
  | '\\' :: c :: rest =>
    match simpleEscape? c with
    | some e => (stringRest? rest).map fun (chars, rest) => (e :: chars, rest)
    | none => none
  | c :: rest =>
    if c.toNat < 32 then none
    else (stringRest? rest).map fun (chars, rest) => (c :: chars, rest)
where
  hexOf (digits : List Char) : Option Nat := Text.hexNumber? digits

/-! ## Numbers -/

/-- The longest whole number that is read, in digits. -/
def wholeLimit : Nat := 4300

def digitsOf (text : List Char) : List Char × List Char :=
  (text.takeWhile Char.isDigit, text.dropWhile Char.isDigit)

def digitsValue (digits : List Char) : Nat :=
  digits.foldl (fun value c => 10 * value + (c.toNat - 48)) 0

/-- Reads the part of a number after the point, if there is one. -/
def fractionPart? : List Char → Option (List Char × List Char)
  | '.' :: rest =>
    match digitsOf rest with
    | ([], _) => none
    | (digits, rest) => some (digits, rest)
  | rest => some ([], rest)

/-- Reads the exponent of a number, if there is one. -/
def exponent? : List Char → Option (Option Int × List Char)
  | c :: rest =>
    if c = 'e' || c = 'E' then
      let (negative, rest) := match rest with
        | '-' :: rest => (true, rest)
        | '+' :: rest => (false, rest)
        | rest => (false, rest)
      match digitsOf rest with
      | ([], _) => none
      | (digits, rest) =>
        let size : Int := digitsValue digits
        some (some (if negative then -size else size), rest)
    else some (none, c :: rest)
  | [] => some (none, [])

/-- Reads a number after its sign. -/
def unsigned? (negative : Bool) (text : List Char) : Option (Json × List Char) := do
  let (whole, rest) := digitsOf text
  match whole with
  | [] => none
  | '0' :: _ :: _ => none
  | _ =>
    let (fraction, rest) ← fractionPart? rest
    let (exponent, rest) ← exponent? rest
    if fraction.isEmpty && exponent.isNone then
      if wholeLimit < whole.length then none
      else
        let size : Int := digitsValue whole
        some (.int (if negative then -size else size), rest)
    else
      let digits := digitsValue (whole ++ fraction)
      some (.float (.ofDecimal negative digits (exponent.getD 0 - fraction.length)), rest)

/-- Reads a number, an infinity, or what is not a number. -/
def number? : List Char → Option (Json × List Char)
  | '-' :: 'I' :: rest =>
    (dropWord? "nfinity".toList rest).map fun rest => (.float (.infinite true), rest)
  | '-' :: rest => unsigned? true rest
  | 'I' :: rest => (dropWord? "nfinity".toList rest).map fun rest => (.float (.infinite false), rest)
  | 'N' :: rest => (dropWord? "aN".toList rest).map fun rest => (.float .nan, rest)
  | rest => unsigned? false rest

/-! ## Values -/

/-- Reads the items of a list after its first one, given the reader of an item; `fuel` bounds their
    number. -/
def moreItems? (item : List Char → Option (Json × List Char)) :
    Nat → List Char → Option (List Json × List Char)
  | 0, _ => none
  | fuel + 1, text =>
    match skipSpace text with
    | ']' :: rest => some ([], rest)
    | ',' :: rest => do
      let (first, rest) ← item (skipSpace rest)
      let (others, rest) ← moreItems? item fuel rest
      some (first :: others, rest)
    | _ => none

/-- Reads a member of an object: its name, a colon, and its value. -/
def member? (item : List Char → Option (Json × List Char)) :
    List Char → Option ((String × Json) × List Char)
  | '"' :: rest => do
    let (name, rest) ← stringRest? rest
    match skipSpace rest with
    | ':' :: rest => do
      let (value, rest) ← item (skipSpace rest)
      some ((String.ofList name, value), rest)
    | _ => none
  | _ => none

/-- Reads the members of an object after its first one. -/
def moreMembers? (item : List Char → Option (Json × List Char)) :
    Nat → List Char → Option (List (String × Json) × List Char)
  | 0, _ => none
  | fuel + 1, text =>
    match skipSpace text with
    | '}' :: rest => some ([], rest)
    | ',' :: rest => do
      let (first, rest) ← member? item (skipSpace rest)
      let (others, rest) ← moreMembers? item fuel rest
      some (first :: others, rest)
    | _ => none

/-- Reads a value that starts at the first character; lists and objects nest at most `depth` deep. -/
def value? (depth : Nat) (text : List Char) : Option (Json × List Char) :=
  match text with
  | 'n' :: rest => (dropWord? "ull".toList rest).map fun rest => (.null, rest)
  | 't' :: rest => (dropWord? "rue".toList rest).map fun rest => (.bool true, rest)
  | 'f' :: rest => (dropWord? "alse".toList rest).map fun rest => (.bool false, rest)
  | '"' :: rest => (stringRest? rest).map fun (chars, rest) => (.string (String.ofList chars), rest)
  | '[' :: rest =>
    match depth with
    | 0 => none
    | depth + 1 =>
      match skipSpace rest with
      | ']' :: rest => some (.list [], rest)
      | rest => do
        let (first, rest) ← value? depth rest
        let (others, rest) ← moreItems? (value? depth) (rest.length + 1) rest
        some (.list (first :: others), rest)
  | '{' :: rest =>
    match depth with
    | 0 => none
    | depth + 1 =>
      match skipSpace rest with
      | '}' :: rest => some (.object [], rest)
      | rest => do
        let (first, rest) ← member? (value? depth) rest
        let (others, rest) ← moreMembers? (value? depth) (rest.length + 1) rest
        some (.object (first :: others), rest)
  | text => number? text

/-- Reads a document whose lists and objects nest at most `depth` deep. -/
def read? (depth : Nat) (text : String) : Option Json :=
  match value? depth (skipSpace text.toList) with
  | some (document, rest) => if (skipSpace rest).isEmpty then some document else none
  | none => none

/-- How deep the lists and objects of an ordinary document may nest. -/
def usualDepth : Nat := 200

end EachSubject.Json
