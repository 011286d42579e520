import EachSubject.Source.Parser.Expression

/-!
# Patterns

The patterns of the cases of a `match`. `patternAt depth` reads patterns in which at most `depth` levels
are nested.
-/

namespace EachSubject.Source

open EachSubject.Source.Parser Grammar

/-- A name alone that matches everything: the underscore, which is not given the value. -/
def captured (name : String) : Option String := if name = "_" then none else some name

/-- A number that is not imaginary. -/
def realNumber : Parser Expr
  | .number (.whole n) :: rest => some (.literal (.whole n), rest)
  | .number (.real x) :: rest => some (.literal (.real x), rest)
  | _ => none

/-- An imaginary number. -/
def imaginaryNumber : Parser Expr
  | .number (.imaginary x) :: rest => some (.literal (.imaginary x), rest)
  | _ => none

/-- A number, possibly with a minus sign, possibly complex. -/
def numberPattern : Parser Expr := do
  let isNegative ← accepts (.op "-")
  let signed (e : Expr) : Expr := if isNegative then .unary "-" e else e
  (do
    let real ← realNumber
    match ← anyOf ["+", "-"] with
    | some op => return .binary op (signed real) (← imaginaryNumber)
    | none => return signed real) <|> signed <$> imaginaryNumber

/-- The strings next in a pattern. -/
def stringPattern (inner : Grammar) : Parser Expr := fun tokens =>
  let (strings, rest) := takeStrings tokens
  if strings.isEmpty then none else (strings? inner strings).map fun e => (e, rest)

/-- A constant in a pattern. -/
def literalPattern (inner : Grammar) : Parser Expr := do
  match ← next with
  | some (.word "None") => skip; return .literal .none
  | some (.word "True") => skip; return .literal (.bool true)
  | some (.word "False") => skip; return .literal (.bool false)
  | some (.string _) => stringPattern inner
  | _ => numberPattern

/-- A name, possibly reached through attributes. -/
def dottedPattern : Parser Expr := do
  let first ← identifier
  let rest ← repeated do
    if ← accepts (.op ".") then return some (← identifier) else return none
  return rest.foldl .attribute (.name first)

/-- Reaches its value through attributes. -/
def isDotted : Expr → Bool
  | .attribute .. => true
  | _ => false

section

variable (inner : Grammar) (pattern : Parser Pattern)

/-- A pattern, or the rest of a sequence. -/
def sequenceItem : Parser Pattern := do
  if ← accepts (.op "*") then return .star (captured (← identifier)) else pattern

/-- Takes a comma that is not followed by an end. -/
def commaUnlessEnd (isEnd : Token → Bool) : Parser Bool
  | .op text :: t :: rest =>
    if text = "," && !isEnd t then some (true, t :: rest) else some (false, .op text :: t :: rest)
  | tokens => some (false, tokens)

/-- Items of a sequence, at least one, and whether there is any comma. -/
def sequenceItems (isEnd : Token → Bool) : Parser (List Pattern × Bool) := do
  let first ← sequenceItem pattern
  let rest ← repeated do
    if ← commaUnlessEnd isEnd then return some (← sequenceItem pattern) else return none
  let trailing ← accepts (.op ",")
  return (first :: rest, trailing || !rest.isEmpty)

/-- A sequence of items; a single one without a comma stands for itself. -/
def sequenceOf (items : List Pattern) (isSequence : Bool) : Option Pattern :=
  match items, isSequence with
  | [.star _], false => none
  | [only], false => some only
  | items, _ => some (.sequence items)

/-- An entry of a mapping, or the name for the entries left over. -/
def mappingItem : Parser (Sum (Expr × Pattern) String) := do
  if ← accepts (.op "**") then
    let name ← identifier
    if name = "_" then failure else return .inr name
  else
    let key ← (do
      let e ← dottedPattern
      if isDotted e then return e else failure) <|> literalPattern inner
    expect (.op ":")
    return .inl (key, ← pattern)

/-- The entries of a mapping, after its opening brace; the name for the rest comes last. -/
def mappingPattern : Parser Pattern := do
  let items ← repeated do
    if ← sees (.op "\x7d") then return none
    else
      let item ← mappingItem inner pattern
      if ← accepts (.op ",") then return some item
      else if ← sees (.op "\x7d") then return some item
      else failure
  expect (.op "\x7d")
  let entries := items.filterMap fun
    | .inl entry => some entry
    | .inr _ => none
  match items.reverse with
  | .inr name :: before =>
    if before.all fun item => item.isLeft then return .mapping entries (some name) else failure
  | all => if all.all fun item => item.isLeft then return .mapping entries none else failure

/-- An argument of a class pattern. -/
def classItem : Parser (Option String × Pattern) := fun tokens =>
  match tokens with
  | .word word :: .op "=" :: rest => do
    let name ← nameOf? word
    let (p, rest) ← pattern rest
    return ((some name, p), rest)
  | tokens => (pattern tokens).map fun (p, rest) => ((none, p), rest)

/-- The arguments of a class pattern, after the opening parenthesis. -/
def classPattern (cls : Expr) : Parser Pattern := do
  let items ← repeated do
    if ← sees (.op ")") then return none
    else
      let item ← classItem pattern
      if ← accepts (.op ",") then return some item
      else if ← sees (.op ")") then return some item
      else failure
  expect (.op ")")
  let positional := items.takeWhile (·.1.isNone)
  let keywords := items.drop positional.length
  if keywords.any (·.1.isNone) then failure
  else return .ofClass cls (positional.map (·.2)) (keywords.filterMap fun k => k.1.map (·, k.2))

/-- A pattern without alternatives. -/
def closedPattern : Parser Pattern := do
  match ← next with
  | some (.op "(") =>
    skip
    if ← accepts (.op ")") then return .sequence []
    else
      let (items, isSequence) ← sequenceItems pattern (· == .op ")")
      expect (.op ")")
      sequenceOf items isSequence
  | some (.op "[") =>
    skip
    if ← accepts (.op "]") then return .sequence []
    else
      let (items, _) ← sequenceItems pattern (· == .op "]")
      expect (.op "]")
      return .sequence items
  | some (.op "\x7b") => skip; mappingPattern inner pattern
  | some (.word word) =>
    if ["None", "True", "False"].contains word then return .literal (← literalPattern inner)
    else
      let e ← dottedPattern
      if ← accepts (.op "(") then classPattern pattern e
      else if ← sees (.op "=") then failure
      else
        match e with
        | .name name => return .capture (captured name)
        | e => return .value e
  | _ => return .literal (← literalPattern inner)

/-- Alternatives, possibly under a name. -/
def patternHere : Parser Pattern := do
  let first ← closedPattern inner pattern
  let rest ← repeated do
    if ← accepts (.op "|") then return some (← closedPattern inner pattern) else return none
  let whole := if rest.isEmpty then first else .alternatives (first :: rest)
  if ← accepts (.word "as") then
    let name ← identifier
    if name = "_" then failure else return .named whole name
  else return whole

/-- What stands behind `case`: a pattern, or the items of a sequence without brackets. -/
def casePattern : Parser Pattern := do
  let isEnd (t : Token) : Bool := t == .op ":" || t == .word "if"
  let (items, isSequence) ← sequenceItems pattern isEnd
  sequenceOf items isSequence

end

/-- Patterns in which at most `depth` levels are nested. -/
def patternAt (inner : Grammar) : Nat → Parser Pattern
  | 0 => fun _ => none
  | depth + 1 => patternHere inner (patternAt inner depth)

/-- Patterns; every nesting takes a token, so the number of tokens bounds their depth. -/
def patterns (inner : Grammar) : Parser Pattern := fun tokens =>
  patternAt inner (tokens.length + 1) tokens

end EachSubject.Source
