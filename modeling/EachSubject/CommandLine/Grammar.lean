import EachSubject.Text.Digit

/-!
# Options and operands

A grammar tells which options a command knows and how many operands it takes. By it each argument is
an option, an operand, or the separator behind which everything is an operand. A long option may be
shortened as long as only one fits, and short options may be written together.
-/

namespace EachSubject.CommandLine

/-- What an option asks for. -/
inductive Switch where
  | help
  | quieter
  | louder
  | outputDir
deriving DecidableEq, Repr

/-- Takes an argument of its own. -/
def Switch.takesArgument : Switch → Bool
  | outputDir => true
  | _ => false

/-- How many operands are taken. -/
inductive Arity where
  | one
  | oneOrMore
  | zeroOrMore
  /-- The name of a command with everything behind it, if anything. -/
  | command
deriving DecidableEq, Repr

structure Grammar where
  /-- The options by their names, with the dashes. -/
  options : List (String × Switch)
  operands : Arity
  /-- What is printed when help is asked for. -/
  help : String

/-- Why reading the arguments stops. -/
inductive Stop where
  /-- Help was asked for. -/
  | help (text : String)
  /-- The arguments do not fit. -/
  | misuse
deriving DecidableEq, Repr

/-! ## Arguments -/

/-- What is attached to the name of an option. -/
inductive Attachment where
  | nothing
  /-- What follows the equals sign behind the name of a long option. -/
  | value (text : List Char)
  /-- What follows the letter of a short option, or the equals sign behind it: its argument, or more
      letters. -/
  | letters (text : List Char)
deriving DecidableEq, Repr

/-- What an argument is. -/
inductive Mark where
  | operand
  | separator
  | unknownOption
  | option (switch : Switch) (attachment : Attachment)
deriving DecidableEq, Repr

/-- An argument with what it is. -/
structure Word where
  text : String
  mark : Mark
deriving DecidableEq, Repr

/-- The argument behind which everything is an operand. -/
def separatorText : String := "--"

/-- The text up to the first equals sign, and what follows that. -/
def splitEquals? (text : List Char) : Option (List Char × List Char) :=
  match text.dropWhile (· != '=') with
  | [] => none
  | _ :: rest => some (text.takeWhile (· != '='), rest)

def isDigit (c : Char) : Bool := (Text.digitValue? c).isSome

/-- What follows a minus sign is a number: digits, or a point with digits behind it and perhaps before
    it. A line end may follow. -/
def isNumber (text : List Char) : Bool :=
  let text := if text.getLast? = some '\n' then text.dropLast else text
  match text.dropWhile isDigit with
  | [] => !text.isEmpty
  | '.' :: fraction => !fraction.isEmpty && fraction.all isDigit
  | _ => false

namespace Grammar

variable (g : Grammar)

/-- The name of an option starts with two dashes. -/
def isLong (name : List Char) : Bool := ['-', '-'].isPrefixOf name

/-- What the option of exactly this name asks for. -/
def switch? (name : List Char) : Option Switch := g.options.lookup (String.ofList name)

/-- The options that an argument may be short for, given that it is none by its full name. -/
def candidates (text : List Char) : List (Switch × Attachment) :=
  match text with
  | '-' :: '-' :: _ =>
    let (start, attachment) : List Char × Attachment :=
      match splitEquals? text with
      | some (start, value) => (start, .value value)
      | none => (text, .nothing)
    g.options.filterMap fun (name, switch) =>
      if start.isPrefixOf name.toList then some (switch, attachment) else none
  | '-' :: letter :: rest =>
    ((g.switch? ['-', letter]).map fun switch => (switch, .letters rest)).toList
  | _ => []

/-- The option that an argument names in full, alone or before an equals sign. -/
def named? (text : List Char) : Option (Switch × Attachment) :=
  match g.switch? text with
  | some switch => some (switch, .nothing)
  | none => do
    let (name, value) ← splitEquals? text
    let switch ← g.switch? name
    return (switch, if isLong name then .value value else .letters value)

/-- What an argument before the separator is. -/
def mark (text : String) : Except Stop Mark :=
  match text.toList with
  | '-' :: c :: rest =>
    match g.named? ('-' :: c :: rest), g.candidates ('-' :: c :: rest) with
    | some (switch, attachment), _ => .ok (.option switch attachment)
    | none, [(switch, attachment)] => .ok (.option switch attachment)
    | none, [] =>
      if isNumber (c :: rest) || (c :: rest).contains ' ' then .ok .operand
      else .ok .unknownOption
    | none, _ => .error .misuse
  | _ => .ok .operand

/-- What the arguments are. -/
def words : List String → Except Stop (List Word)
  | [] => .ok []
  | text :: rest =>
    if text = separatorText then .ok (⟨text, .separator⟩ :: rest.map fun t => ⟨t, .operand⟩)
    else do return ⟨text, ← g.mark text⟩ :: (← words rest)

end Grammar

end EachSubject.CommandLine
