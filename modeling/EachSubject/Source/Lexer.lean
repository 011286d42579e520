import EachSubject.Source.Token
import EachSubject.Text.Hex
import EachSubject.Text.Identifier

/-!
# From text to tokens

`tokens?` cuts the text of a module into tokens. It fails on unbalanced brackets and quotes, on
inconsistent indentation, on ill-formed numerals and on characters that start no token. Inside
brackets line ends are white space; elsewhere they end a logical line, and the indentation of the
next line opens or closes blocks.
-/

namespace EachSubject.Source

/-! ## Numerals -/

/-- Digits of a class, each possibly after a single underscore; an underscore without a digit behind
    it is refused. -/
def digitsAfter? (isDigit : Char → Bool) : List Char → Option (List Char × List Char)
  | [] => some ([], [])
  | '_' :: [] => none
  | '_' :: c :: rest =>
    if isDigit c then (digitsAfter? isDigit rest).map fun (digits, rest) => (c :: digits, rest)
    else none
  | c :: rest =>
    if isDigit c then (digitsAfter? isDigit rest).map fun (digits, rest) => (c :: digits, rest)
    else some ([], c :: rest)

/-- The value of digits in a base. -/
def digitsValue (base : Nat) (digits : List Char) : Nat :=
  digits.foldl (fun value c => base * value + (Text.hexValue? c).getD 0) 0

/-- May continue a word: a letter, a digit, an underscore, or anything beyond ASCII. -/
def isWordChar (c : Char) : Bool := c.isAlphanum || c == '_' || 128 ≤ c.toNat

/-- The rest of a text after an expected beginning. -/
def drop? : List Char → List Char → Option (List Char)
  | [], text => some text
  | c :: word, d :: text => if c = d then drop? word text else none
  | _ :: _, [] => none

/-- The reserved words that may follow a numeral without a space in between, as far as the lexer
    looks. -/
def wordsAfterNumber : List String := ["and", "else", "for", "if", "in", "is", "or"]

/-- A numeral may end before this text. -/
def endsNumber (text : List Char) : Bool :=
  match text with
  | [] => true
  | c :: _ =>
    !isWordChar c || wordsAfterNumber.any fun word => (drop? word.toList text).isSome

/-- The longest decimal numeral of a whole number other than zero, in digits. -/
def wholeLimit : Nat := 4300

/-- A number of base sixteen, eight or two, after its leading zero and letter. -/
def basedNumber? (base : Nat) (isDigit : Char → Bool) (text : List Char) :
    Option (Number × List Char) := do
  let (digits, rest) ← digitsAfter? isDigit text
  if digits.isEmpty || (rest.head?.map Char.isDigit).getD false || !endsNumber rest then none
  else some (.whole (digitsValue base digits), rest)

/-- The end of a decimal numeral with the given digits before and after the point; `isReal` tells
    whether a point was read. -/
def afterPoint? (whole fraction : List Char) (isReal : Bool) (text : List Char) :
    Option (Number × List Char) := do
  let digits := digitsValue 10 (whole ++ fraction)
  let value (exponent : Int) := Double.ofDecimal false digits (exponent - fraction.length)
  let finish (exponent : Option Int) (rest : List Char) : Option (Number × List Char) :=
    match rest with
    | c :: after =>
      if c = 'j' || c = 'J' then
        if endsNumber after then some (.imaginary (value (exponent.getD 0)), after) else none
      else if endsNumber rest then some (number exponent, rest) else none
    | [] => some (number exponent, [])
  match text with
  | e :: after =>
    if e = 'e' || e = 'E' then
      match after with
      | sign :: d :: _ =>
        if sign = '+' || sign = '-' then
          if d.isDigit then do
            let (power, rest) ← digitsAfter? Char.isDigit (after.drop 1)
            let size : Int := digitsValue 10 power
            finish (some (if sign = '-' then -size else size)) rest
          else none
        else if sign.isDigit then do
          let (power, rest) ← digitsAfter? Char.isDigit after
          finish (some (digitsValue 10 power)) rest
        else if endsNumber text then some (number none, text) else none
      | [sign] =>
        if sign.isDigit then finish (some (digitsValue 10 [sign])) []
        else if sign = '+' || sign = '-' then none
        else if endsNumber text then some (number none, text) else none
      | [] => none
    else finish none text
  | [] => finish none []
where
  number (exponent : Option Int) : Number :=
    if isReal || exponent.isSome then
      .real (Double.ofDecimal false (digitsValue 10 (whole ++ fraction))
        (exponent.getD 0 - fraction.length))
    else .whole (digitsValue 10 whole)

/-- The fraction of a decimal numeral, after its point. -/
def fraction? (whole text : List Char) : Option (Number × List Char) :=
  match text with
  | c :: _ =>
    if c.isDigit then do
      let (fraction, rest) ← digitsAfter? Char.isDigit text
      afterPoint? whole fraction true rest
    else afterPoint? whole [] true text
  | [] => afterPoint? whole [] true []

/-- A decimal numeral that starts with a digit. A whole number has no superfluous leading zero. -/
def decimalNumber? (text : List Char) : Option (Number × List Char) := do
  let (digits, rest) ← digitsAfter? Char.isDigit text
  match rest with
  | '.' :: rest => fraction? digits rest
  | rest =>
    let (number, after) ← afterPoint? digits [] false rest
    match number with
    | .whole _ =>
      if digits.any (· != '0') && (wholeLimit < digits.length || digits.head? = some '0') then none
      else some (number, after)
    | _ => some (number, after)

def isOctalDigit (c : Char) : Bool := '0' ≤ c && c ≤ '7'

def isBinaryDigit (c : Char) : Bool := c == '0' || c == '1'

def isHexDigit (c : Char) : Bool := (Text.hexValue? c).isSome

/-- A numeral at the head of a text that starts with a digit, or with a point and a digit. -/
def number? (text : List Char) : Option (Number × List Char) :=
  match text with
  | '0' :: x :: rest =>
    if x = 'x' || x = 'X' then basedNumber? 16 isHexDigit rest
    else if x = 'o' || x = 'O' then basedNumber? 8 isOctalDigit rest
    else if x = 'b' || x = 'B' then basedNumber? 2 isBinaryDigit rest
    else decimalNumber? text
  | '.' :: rest => fraction? [] rest
  | text => decimalNumber? text

/-! ## Strings -/

/-- The body of a string up to its closing quote, and what follows it. -/
def shortString? (quote : Char) : List Char → Option (List Char × List Char)
  | [] => none
  | '\\' :: c :: rest =>
    (shortString? quote rest).map fun (body, rest) => ('\\' :: c :: body, rest)
  | c :: rest =>
    if c = '\n' || c = '\\' then none
    else if c = quote then some ([], rest)
    else (shortString? quote rest).map fun (body, rest) => (c :: body, rest)

/-- The body of a string up to its three closing quotes, and what follows them. -/
def longString? (quote : Char) : List Char → Option (List Char × List Char)
  | [] => none
  | '\\' :: c :: rest =>
    (longString? quote rest).map fun (body, rest) => ('\\' :: c :: body, rest)
  | c :: rest =>
    if c = '\\' then none
    else if c = quote && rest.take 2 = [quote, quote] then some ([], rest.drop 2)
    else (longString? quote rest).map fun (body, rest) => (c :: body, rest)

/-- A string at the head of a text that starts with a quote. -/
def quotedBody? : List Char → Option (List Char × List Char)
  | q :: r :: s :: rest =>
    if r = q && s = q then longString? q rest
    else if r = q then some ([], s :: rest)
    else shortString? q (r :: s :: rest)
  | [q, r] => if r = q then some ([], []) else none
  | _ => none

/-- The letters that may stand before a string, in lower case. -/
def stringMarks : List String := ["", "b", "u", "r", "f", "br", "rb", "fr", "rf"]

/-- The string with the given letters before it. -/
def StringToken.ofMark (mark body : List Char) : StringToken where
  isBytes := mark.contains 'b'
  isRaw := mark.contains 'r'
  isFormatted := mark.contains 'f'
  body := body

/-! ## Operators -/

/-- Operators and delimiters, the longer ones first. -/
def operators : List String :=
  ["**=", "//=", ">>=", "<<=", "...",
   "**", "//", ">>", "<<", "==", "!=", "<=", ">=", "<>", "->", "+=", "-=", "*=", "/=", "%=", "&=",
   "|=", "^=", "@=", ":=",
   "+", "-", "*", "/", "%", "@", "&", "|", "^", "~", "<", ">", "(", ")", "[", "]", "\x7b", "\x7d",
   ",", ":", ";", ".", "="]

/-- The longest operator at the head of a text. -/
def operator? (text : List Char) : Option (String × List Char) :=
  operators.findSome? fun op => (drop? op.toList text).map fun rest => (op, rest)

def isQuote (c : Char) : Bool := c == '\'' || c == '"'

/-- The token at the head of a text that does not start with white space. -/
def token? (text : List Char) : Option (Token × List Char) :=
  match text with
  | [] => none
  | c :: after =>
    if c.isDigit || (c == '.' && (after.head?.map Char.isDigit).getD false) then
      (number? text).map fun (value, rest) => (.number value, rest)
    else
      let word := text.takeWhile isWordChar
      let rest := text.dropWhile isWordChar
      let mark := word.map Char.toLower
      if (rest.head?.map isQuote).getD false && stringMarks.contains (String.ofList mark) then
        (quotedBody? rest).map fun (body, rest) => (.string (.ofMark mark body), rest)
      else if !word.isEmpty then
        if Text.isIdentifierChars word then some (.word (String.ofList word), rest) else none
      else (operator? text).map fun (op, rest) => (.op op, rest)

/-! ## Layout -/

/-- The open brackets and blocks at a place of a text. -/
structure Layout where
  /-- The brackets that close the open ones, innermost first. -/
  closers : List String
  /-- The columns of the open blocks, innermost first, counted with wide and with narrow tabs. -/
  columns : List (Nat × Nat)
deriving DecidableEq, Repr

/-- Nothing is open at the start of a text. -/
def Layout.start : Layout := ⟨[], [(0, 0)]⟩

/-- How deep brackets may nest. -/
def bracketLimit : Nat := 200

/-- How deep blocks may nest. -/
def blockLimit : Nat := 100

/-- The bracket that closes an opening one. -/
def closerOf? : String → Option String
  | "(" => some ")"
  | "[" => some "]"
  | "\x7b" => some "\x7d"
  | _ => none

def isCloser (op : String) : Bool := op == ")" || op == "]" || op == "\x7d"

/-- The layout after a token; a closing bracket must close the innermost open one. -/
def Layout.after? (layout : Layout) : Token → Option Layout
  | .op op =>
    match closerOf? op with
    | some closer =>
      if layout.closers.length < bracketLimit then
        some { layout with closers := closer :: layout.closers }
      else none
    | none =>
      if isCloser op then
        match layout.closers with
        | closer :: closers => if closer = op then some { layout with closers } else none
        | [] => none
      else some layout
  | _ => some layout

/-- Closes blocks until the column of an open block is met. -/
def closeBlocks (column narrow : Nat) : List (Nat × Nat) → Option (List Token × List (Nat × Nat))
  | [] => none
  | (wide, thin) :: outer =>
    if column = wide then if narrow = thin then some ([], (wide, thin) :: outer) else none
    else if column < wide then
      (closeBlocks column narrow outer).map fun (tokens, columns) => (.dedent :: tokens, columns)
    else none

/-- The tokens of a line's indentation, and the blocks open after it. -/
def Layout.indentTo? (layout : Layout) (column narrow : Nat) : Option (List Token × Layout) :=
  match layout.columns with
  | [] => none
  | (wide, thin) :: outer =>
    if wide < column then
      if thin < narrow && outer.length + 1 < blockLimit then
        some ([.indent], { layout with columns := (column, narrow) :: layout.columns })
      else none
    else (closeBlocks column narrow layout.columns).map fun (tokens, columns) =>
      (tokens, { layout with columns })

/-- Measures the white space at the start of a line: its width with wide and with narrow tabs. A
    form feed starts over. -/
def measureIndent (column narrow : Nat) : List Char → Nat × Nat × List Char
  | ' ' :: rest => measureIndent (column + 1) (narrow + 1) rest
  | '\t' :: rest => measureIndent ((column / 8 + 1) * 8) (narrow + 1) rest
  | '\x0c' :: rest => measureIndent 0 0 rest
  | rest => (column, narrow, rest)

def isInlineSpace (c : Char) : Bool := c == ' ' || c == '\t' || c == '\x0c'

/-- Cuts a text into tokens; `fresh` tells that a new line starts here. Each step removes at least one
    character or ends the start of a line, so twice the length bounds their number. -/
def scan : Nat → Bool → Layout → List Char → Option (List Token)
  | 0, _, _, _ => none
  | fuel + 1, true, layout, text =>
    let (column, narrow, rest) := measureIndent 0 0 text
    match rest with
    | [] => some (layout.columns.dropLast.map fun _ => .dedent)
    | '\n' :: rest => scan fuel true layout rest
    | '#' :: rest => scan fuel true layout (rest.dropWhile (· != '\n'))
    | rest => do
      let (tokens, layout) ← layout.indentTo? column narrow
      let more ← scan fuel false layout rest
      some (tokens ++ more)
  | fuel + 1, false, layout, text =>
    match text with
    | [] => none
    | '\n' :: rest =>
      if layout.closers.isEmpty then (scan fuel true layout rest).map (.newline :: ·)
      else scan fuel false layout rest
    | '#' :: rest => scan fuel false layout (rest.dropWhile (· != '\n'))
    | '\\' :: '\n' :: rest => if rest.isEmpty then none else scan fuel false layout rest
    | c :: rest =>
      if isInlineSpace c then scan fuel false layout rest
      else do
        let (token, rest) ← token? (c :: rest)
        let layout ← layout.after? token
        let more ← scan fuel false layout rest
        some (token :: more)

/-- Without fuel no text is scanned. -/
@[simp] theorem scan_zero (fresh : Bool) (layout : Layout) (text : List Char) :
    scan 0 fresh layout text = none := by
  rw [scan]

/-- Line ends of either convention become newlines. -/
def unifyLineEnds : List Char → List Char
  | '\r' :: '\n' :: rest => '\n' :: unifyLineEnds rest
  | '\r' :: rest => '\n' :: unifyLineEnds rest
  | c :: rest => c :: unifyLineEnds rest
  | [] => []

/-- The text with a newline at its end. -/
def endLine (text : List Char) : List Char :=
  if text.getLast? = some '\n' then text else text ++ ['\n']

/-- The character that no text of a module holds. -/
def nulCharacter : Char := '\x00'

/-- The tokens of a text, which must not hold the NUL character. -/
def tokens? (text : List Char) : Option (List Token) :=
  if text.contains nulCharacter then none
  else
    let lines := endLine (unifyLineEnds text)
    scan (2 * lines.length + 1) true .start lines

end EachSubject.Source
