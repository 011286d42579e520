import EachSubject.Source.Syntax
import EachSubject.Source.Token
import EachSubject.Text.Identifier
import EachSubject.Text.Normalization

/-!
# Reading tokens

A parser takes tokens from the front of a list and gives a result and the tokens left, or fails.
-/

namespace EachSubject.Source

/-- Takes tokens from the front, or fails. -/
abbrev Parser := StateT (List Token) Option

namespace Parser

variable {α : Type}

/-- The next token, which stays. -/
def next : Parser (Option Token) := fun tokens => some (tokens.head?, tokens)

/-- The next two tokens, which stay. -/
def nextTwo : Parser (List Token) := fun tokens => some (tokens.take 2, tokens)

/-- The next token is this one; it stays. -/
def sees (token : Token) : Parser Bool := fun tokens => some (tokens.head? == some token, tokens)

/-- Takes this token if it is next, and tells whether it was. -/
def accepts (token : Token) : Parser Bool
  | [] => some (false, [])
  | t :: rest => if t = token then some (true, rest) else some (false, t :: rest)

/-- Takes this token. -/
def expect (token : Token) : Parser Unit
  | [] => none
  | t :: rest => if t = token then some ((), rest) else none

/-- Takes the next token whatever it is. -/
def skip : Parser Unit
  | [] => none
  | _ :: rest => some ((), rest)

/-- The name that a word stands for; reserved words are none. Words with one normalized form are one
    name. -/
def nameOf? (word : String) : Option String :=
  if Text.isReserved word then none else some (Text.normalized word)

/-- Takes a name that is not reserved. -/
def identifier : Parser String
  | .word text :: rest => (nameOf? text).map fun name => (name, rest)
  | _ => none

/-- Takes the first of these operators that is next. -/
def anyOf (ops : List String) : Parser (Option String)
  | .op text :: rest => if ops.contains text then some (some text, rest) else some (none, .op text :: rest)
  | tokens => some (none, tokens)

/-- Runs a step until it gives nothing, at most `fuel` times. -/
def repeatAtMost (step : Parser (Option α)) : Nat → Parser (List α)
  | 0 => fun _ => none
  | fuel + 1 => do
    match ← step with
    | none => return []
    | some a => return a :: (← repeatAtMost step fuel)

/-- Runs a step until it gives nothing. A step that gives something takes a token, so the number of
    tokens bounds the number of steps. -/
def repeated (step : Parser (Option α)) : Parser (List α) := fun tokens =>
  repeatAtMost step (tokens.length + 1) tokens

/-- Reserved words with which an expression can start. -/
def expressionWords : List String := ["None", "True", "False", "not", "lambda", "await", "yield"]

/-- Operators with which an expression or a spread can start. -/
def expressionOps : List String := ["(", "[", "\x7b", "+", "-", "~", "*", "**", "..."]

/-- The token can start an item of a list of expressions. -/
def startsItem : Token → Bool
  | .word text => !Text.isReserved text || expressionWords.contains text
  | .number _ => true
  | .string _ => true
  | .op text => expressionOps.contains text
  | _ => false

/-- The token can start an item of a list of slices. -/
def startsSlice (token : Token) : Bool := startsItem token || token == .op ":"

/-- Takes a comma that is followed by a further item. -/
def commaBefore (starts : Token → Bool) : Parser Bool
  | .op text :: t :: rest =>
    if text = "," && starts t then some (true, t :: rest) else some (false, .op text :: t :: rest)
  | tokens => some (false, tokens)

/-- Items after a first one, each behind a comma, and possibly a comma at the end. Gives the items
    and whether there was any comma. -/
def moreStarting (starts : Token → Bool) (item : Parser α) : Parser (List α × Bool) := do
  let items ← repeated do
    if ← commaBefore starts then return some (← item) else return none
  let trailing ← accepts (.op ",")
  return (items, trailing || !items.isEmpty)

/-- Further items of a list of expressions. -/
def moreItems (item : Parser α) : Parser (List α × Bool) := moreStarting startsItem item

/-- Items separated by single commas, at least one. -/
def separated (item : Parser α) : Parser (List α) := do
  let first ← item
  let rest ← repeated do
    if ← accepts (.op ",") then return some (← item) else return none
  return first :: rest

end Parser

end EachSubject.Source
