import EachSubject.Double.Decimal
import EachSubject.Text.Hex
import EachSubject.Toml.Basic

/-!
# Keys, texts, numbers and moments

Readers of the parts of a TOML document that hold no other values. Each takes the text that remains and
gives what it read with the text behind it.
-/

namespace EachSubject.Toml

def isSpace (c : Char) : Bool := c == ' ' || c == '\t'

/-- The text without the spaces at its start. -/
def skipSpaces (text : List Char) : List Char := text.dropWhile isSpace

/-- A control character, the tabulator apart. -/
def isControl (c : Char) : Bool := (c.toNat < 32 && c != '\t') || c.toNat == 127

/-- What follows a comment at the start of a text: its line must hold no control character. -/
def skipComment (text : List Char) : Except Fault (List Char) :=
  match text with
  | '#' :: rest =>
    if (rest.takeWhile (· != '\n')).any isControl then .error .malformed
    else .ok (rest.dropWhile (· != '\n'))
  | text => .ok text

/-! ## Texts -/

/-- What a letter behind a backslash stands for. -/
def escapeOf? : Char → Option Char
  | 'b' => some '\x08'
  | 't' => some '\t'
  | 'n' => some '\n'
  | 'f' => some '\x0c'
  | 'r' => some '\r'
  | '"' => some '"'
  | '\\' => some '\\'
  | _ => none

/-- Reads a character given by so many hexadecimal digits. -/
def hexChar (count : Nat) (text : List Char) : Except Fault (Char × List Char) :=
  let digits := text.take count
  match Text.hexNumber? digits with
  | some n =>
    if digits.length = count && (n < 0xd800 || (0xdfff < n && n ≤ 0x10ffff)) then
      .ok (Char.ofNat n, text.drop count)
    else .error .malformed
  | none => .error .malformed

/-- What follows a backslash at the end of a line: the next character that is neither space nor
    line end. -/
def skipLineEnd (text : List Char) : Except Fault (List Char) :=
  match skipSpaces text with
  | [] => .ok []
  | '\n' :: rest => .ok (rest.dropWhile fun c => isSpace c || c == '\n')
  | _ => .error .malformed

/-- Reads the rest of a text in double quotes, of one or of several lines; `fuel` bounds its length. -/
def basicText (multiline : Bool) : Nat → List Char → Except Fault (List Char × List Char)
  | 0, _ => .error .malformed
  | _, [] => .error .malformed
  | fuel + 1, '"' :: rest =>
    if !multiline then .ok ([], rest)
    else
      match rest with
      | '"' :: '"' :: rest => .ok ([], rest)
      | rest => do
        let (others, rest) ← basicText multiline fuel rest
        return ('"' :: others, rest)
  | fuel + 1, '\\' :: c :: rest => do
    if multiline && (isSpace c || c == '\n') then
      basicText multiline fuel (← skipLineEnd (c :: rest))
    else
      let (first, rest) ←
        match c with
        | 'u' => hexChar 4 rest
        | 'U' => hexChar 8 rest
        | c =>
          match escapeOf? c with
          | some c => .ok (c, rest)
          | none => .error .malformed
      let (others, rest) ← basicText multiline fuel rest
      return (first :: others, rest)
  | fuel + 1, c :: rest => do
    if c == '\\' || (isControl c && !(multiline && c == '\n')) then .error .malformed
    else
      let (others, rest) ← basicText multiline fuel rest
      return (c :: others, rest)

/-- Reads the rest of a text in single quotes on one line. -/
def literalText (text : List Char) : Except Fault (List Char × List Char) :=
  let inside := text.takeWhile (· != '\'')
  match text.dropWhile (· != '\'') with
  | _ :: rest => if inside.any isControl then .error .malformed else .ok (inside, rest)
  | [] => .error .malformed

/-- Reads the rest of a text in three single quotes. -/
def literalLines : List Char → Except Fault (List Char × List Char)
  | '\'' :: '\'' :: '\'' :: rest => .ok ([], rest)
  | c :: rest => do
    if isControl c && c != '\n' then .error .malformed
    else
      let (others, rest) ← literalLines rest
      return (c :: others, rest)
  | [] => .error .malformed

/-- One or two more quotes behind the three that end a text belong to the text. -/
def moreQuotes (quote : Char) (inside rest : List Char) : List Char × List Char :=
  match rest with
  | a :: b :: after =>
    if a == quote && b == quote then (inside ++ [quote, quote], after)
    else if a == quote then (inside ++ [quote], b :: after)
    else (inside, rest)
  | [a] => if a == quote then (inside ++ [quote], []) else (inside, rest)
  | [] => (inside, rest)

/-- The text without a line end at its start. -/
def dropLineEnd : List Char → List Char
  | '\n' :: rest => rest
  | text => text

/-- Reads a text that starts with a quote. -/
def quotedText (text : List Char) : Except Fault (String × List Char) :=
  match text with
  | '"' :: '"' :: '"' :: rest => do
    let (inside, rest) ← basicText true (rest.length + 1) (dropLineEnd rest)
    let (inside, rest) := moreQuotes '"' inside rest
    return (String.ofList inside, rest)
  | '\'' :: '\'' :: '\'' :: rest => do
    let (inside, rest) ← literalLines (dropLineEnd rest)
    let (inside, rest) := moreQuotes '\'' inside rest
    return (String.ofList inside, rest)
  | '"' :: rest => do
    let (inside, rest) ← basicText false (rest.length + 1) rest
    return (String.ofList inside, rest)
  | '\'' :: rest => do
    let (inside, rest) ← literalText rest
    return (String.ofList inside, rest)
  | _ => .error .malformed

/-! ## Keys -/

def isBareKeyChar (c : Char) : Bool := c.isAlphanum || c == '-' || c == '_'

/-- A key may start like this. -/
def startsKey (c : Char) : Bool := isBareKeyChar c || c == '"' || c == '\''

/-- Reads one part of a key. -/
def keyPart (text : List Char) : Except Fault (String × List Char) :=
  match text with
  | '"' :: rest => do
    let (inside, rest) ← basicText false (rest.length + 1) rest
    return (String.ofList inside, rest)
  | '\'' :: rest => do
    let (inside, rest) ← literalText rest
    return (String.ofList inside, rest)
  | text =>
    let bare := text.takeWhile isBareKeyChar
    if bare.isEmpty then .error .malformed
    else .ok (String.ofList bare, text.dropWhile isBareKeyChar)

/-- Reads the parts of a key, with points between them; `fuel` bounds their number. -/
def keyParts : Nat → List Char → Except Fault (List String × List Char)
  | 0, _ => .error .malformed
  | fuel + 1, text => do
    let (first, rest) ← keyPart text
    match skipSpaces rest with
    | '.' :: rest =>
      let (others, rest) ← keyParts fuel (skipSpaces rest)
      return (first :: others, rest)
    | rest => return ([first], rest)

/-- Reads a key and the spaces behind it. -/
def key (text : List Char) : Except Fault (List String × List Char) := keyParts (text.length + 1) text

/-! ## Numbers -/

/-- Reads digits with single underscores between them. -/
def digitRun (isDigit : Char → Bool) : List Char → List Char × List Char
  | '_' :: c :: rest =>
    if isDigit c then
      let (others, rest) := digitRun isDigit rest
      (c :: others, rest)
    else ([], '_' :: c :: rest)
  | c :: rest =>
    if isDigit c then
      let (others, rest) := digitRun isDigit rest
      (c :: others, rest)
    else ([], c :: rest)
  | [] => ([], [])

/-- Reads one or more digits. -/
def digits? (isDigit : Char → Bool) (text : List Char) : Option (List Char × List Char) :=
  match text with
  | c :: rest =>
    if isDigit c then
      let (others, rest) := digitRun isDigit rest
      some (c :: others, rest)
    else none
  | [] => none

/-- The value of digits in a base. -/
def digitsValue (base : Nat) (digits : List Char) : Nat :=
  digits.foldl (fun value c => base * value + (Text.hexValue? c).getD 0) 0

/-- Reads a number in another base than ten, behind its zero. -/
def basedNumber? : List Char → Option (Int × List Char)
  | 'x' :: rest => (digits? (fun c => (Text.hexValue? c).isSome) rest).map fun (digits, rest) =>
      ((digitsValue 16 digits : Nat), rest)
  | 'o' :: rest => (digits? (fun c => '0' ≤ c && c ≤ '7') rest).map fun (digits, rest) =>
      ((digitsValue 8 digits : Nat), rest)
  | 'b' :: rest => (digits? (fun c => c == '0' || c == '1') rest).map fun (digits, rest) =>
      ((digitsValue 2 digits : Nat), rest)
  | _ => none

/-- The longest run of decimal digits that is read as a whole number. -/
def digitLimit : Nat := 4300

/-- Reads the fraction of a number, if it has one. -/
def fraction (text : List Char) : List Char × List Char :=
  match text with
  | '.' :: rest => (digits? Char.isDigit rest).getD ([], '.' :: rest)
  | text => ([], text)

/-- Reads the exponent of a number, if it has one. -/
def exponent? (text : List Char) : Option (Int × List Char) :=
  match text with
  | e :: rest =>
    if e == 'e' || e == 'E' then
      let (negative, rest) := match rest with
        | '-' :: rest => (true, rest)
        | '+' :: rest => (false, rest)
        | rest => (false, rest)
      (digits? Char.isDigit rest).map fun (digits, rest) =>
        let size : Int := digitsValue 10 digits
        (if negative then -size else size, rest)
    else none
  | [] => none

/-- Reads the whole part of a decimal number: a lone zero, or digits that start with no zero. -/
def wholePart? (text : List Char) : Option (List Char × List Char) :=
  match text with
  | '0' :: rest => some (['0'], rest)
  | text => digits? Char.isDigit text

/-- Reads a number in base ten after its sign. -/
def decimalNumber? (negative : Bool) (text : List Char) : Option (Except Fault Value × List Char) := do
  let (whole, rest) ← wholePart? text
  let (places, rest) := fraction rest
  match places, exponent? rest with
  | [], none =>
    if digitLimit < whole.length then some (.error .tooManyDigits, rest)
    else
      let size : Int := digitsValue 10 whole
      some (.ok (.integer (if negative then -size else size)), rest)
  | places, exponent =>
    let (power, rest) := exponent.getD (0, rest)
    some (.ok (.float (.ofDecimal negative (digitsValue 10 (whole ++ places))
      (power - places.length))), rest)

/-- Reads a number. -/
def number? (text : List Char) : Option (Except Fault Value × List Char) :=
  match text with
  | '+' :: rest => decimalNumber? false rest
  | '-' :: rest => decimalNumber? true rest
  | '0' :: rest =>
    match basedNumber? rest with
    | some (value, rest) => some (.ok (.integer value), rest)
    | none => decimalNumber? false text
  | text => decimalNumber? false text

/-- Reads an infinity or what is not a number. -/
def specialNumber? (text : List Char) : Option (Value × List Char) :=
  let (negative, rest) := match text with
    | '-' :: rest => (true, rest)
    | '+' :: rest => (false, rest)
    | rest => (false, rest)
  match rest with
  | 'i' :: 'n' :: 'f' :: rest => some (.float (.infinite negative), rest)
  | 'n' :: 'a' :: 'n' :: rest => some (.float .nan, rest)
  | _ => none

/-! ## Dates and times -/

/-- Reads a number of exactly two decimal digits. -/
def twoDigits? : List Char → Option (Nat × List Char)
  | a :: b :: rest =>
    if a.isDigit && b.isDigit then some (digitsValue 10 [a, b], rest) else none
  | _ => none

/-- Reads a number of two digits, at most so large. -/
def twoDigitsTo? (limit : Nat) (text : List Char) : Option (Nat × List Char) :=
  (twoDigits? text).filter fun (n, _) => n ≤ limit

/-- Takes a certain character. -/
def take? (c : Char) : List Char → Option (List Char)
  | d :: rest => if d = c then some rest else none
  | [] => none

/-- What follows a time of day: hour, minute, second, and perhaps a fraction. -/
def time? (text : List Char) : Option (List Char) := do
  let (_, rest) ← twoDigitsTo? 23 text
  let (_, rest) ← twoDigitsTo? 59 (← take? ':' rest)
  let (_, rest) ← twoDigitsTo? 59 (← take? ':' rest)
  match rest with
  | '.' :: c :: after => if c.isDigit then some (after.dropWhile Char.isDigit) else some rest
  | rest => some rest

/-- What follows the distance from universal time, if it is given. -/
def offset (text : List Char) : List Char :=
  match text with
  | 'Z' :: rest => rest
  | 'z' :: rest => rest
  | sign :: rest =>
    if sign == '+' || sign == '-' then
      (do
        let (_, rest) ← twoDigitsTo? 23 rest
        let (_, rest) ← twoDigitsTo? 59 (← take? ':' rest)
        some rest : Option (List Char)).getD text
    else text
  | [] => text

/-- The number of days of a month. -/
def daysIn (year month : Nat) : Nat :=
  if month = 2 then
    if year % 4 = 0 && (year % 100 != 0 || year % 400 = 0) then 29 else 28
  else if [4, 6, 9, 11].contains month then 30 else 31

/-- Reads a date, with a time if one follows. A date that is in no calendar is refused. -/
def date? (text : List Char) : Option (Except Fault Value × List Char) := do
  let (century, rest) ← twoDigits? text
  let (ofCentury, rest) ← twoDigits? rest
  let (month, rest) ← twoDigitsTo? 12 (← take? '-' rest)
  let (day, rest) ← twoDigitsTo? 31 (← take? '-' rest)
  if month = 0 || day = 0 then none
  let year := 100 * century + ofCentury
  let rest := match rest with
    | mark :: after =>
      if mark == 'T' || mark == 't' || mark == ' ' then ((time? after).map offset).getD rest else rest
    | [] => rest
  if year = 0 || daysIn year month < day then some (.error .malformed, rest)
  else some (.ok .moment, rest)

/-- Reads a value that starts with none of the marks of texts, arrays and tables. -/
def plainValue (text : List Char) : Except Fault (Value × List Char) :=
  match date? text with
  | some (value, rest) => value.map fun v => (v, rest)
  | none =>
    match time? text with
    | some rest => .ok (.moment, rest)
    | none =>
      match number? text with
      | some (value, rest) => value.map fun v => (v, rest)
      | none =>
        match specialNumber? text with
        | some (value, rest) => .ok (value, rest)
        | none => .error .malformed

end EachSubject.Toml
