import EachSubject.CommandLine.Grammar

/-!
# Reading arguments

Options are taken in order. The first operands that fit are taken all together, up to the next option;
whatever else remains is left over.
-/

namespace EachSubject.CommandLine

/-- What the arguments say. -/
structure Reading where
  /-- The options in order, with their arguments. -/
  switches : List (Switch × Option String) := []
  /-- The operands, once they are taken. -/
  operands : Option (List String) := none
  leftover : List String := []
deriving DecidableEq, Repr

namespace Word

def isSeparator (w : Word) : Bool := w.mark == .separator

def isOperand (w : Word) : Bool := w.mark == .operand

def isOption (w : Word) : Bool := !w.isSeparator && !w.isOperand

end Word

/-! ## Options -/

/-- Options written together. -/
structure Group where
  /-- Those without an argument, in order. -/
  flags : List Switch := []
  /-- The last one, if it takes an argument, with what is attached to it. -/
  last : Option (Switch × Option String) := none
deriving DecidableEq, Repr

/-- An option to which nothing is attached. -/
def Group.alone (switch : Switch) : Group :=
  if switch.takesArgument then { last := some (switch, none) } else { flags := [switch] }

/-- An option with an argument, which it has to take. -/
def Group.valued (switch : Switch) (argument : List Char) : Except Stop Group :=
  if switch.takesArgument then .ok { last := some (switch, some (String.ofList argument)) }
  else .error .misuse

namespace Grammar

variable (g : Grammar)

/-- Reads what follows the letter of a short option: its argument if it takes one, or else letters of
    more options, all of which have to be known. -/
def letters (switch : Switch) : List Char → Except Stop Group
  | [] => .ok (.alone switch)
  | c :: rest =>
    if switch.takesArgument then Group.valued switch (c :: rest)
    else
      match g.switch? ['-', c] with
      | none => .error .misuse
      | some next =>
        (letters next rest).map fun group => { group with flags := switch :: group.flags }

/-- Reads what is attached to an option. What follows the equals sign behind a short option counts as
    if it followed the letter, unless it is nothing. -/
def group (switch : Switch) : Attachment → Except Stop Group
  | .nothing => .ok (.alone switch)
  | .value argument => Group.valued switch argument
  | .letters [] => Group.valued switch []
  | .letters rest => g.letters switch rest

/-- Gives the last option of a group its argument: what is attached, or else the next word, which has
    to be an operand. Gives all options of the group, and the words behind them. -/
def complete (group : Group) (rest : List Word) :
    Except Stop (List (Switch × Option String) × List Word) :=
  let flags := group.flags.map fun switch => (switch, none)
  match group.last, rest with
  | none, rest => .ok (flags, rest)
  | some (switch, some argument), rest => .ok (flags ++ [(switch, some argument)], rest)
  | some (switch, none), ⟨argument, .operand⟩ :: rest => .ok (flags ++ [(switch, some argument)], rest)
  | some (_, none), _ => .error .misuse

/-- Takes an option, and what it needs from the words behind it. An option for help ends the
    reading. -/
def takeOption (r : Reading) (switch : Switch) (attachment : Attachment) (rest : List Word) :
    Except Stop (Reading × List Word) := do
  let group ← g.group switch attachment
  let (switches, rest) ← complete group rest
  if switches.any (·.1 == .help) then .error (.help g.help)
  else
    .ok ({ r with switches := r.switches ++ switches }, rest)

end Grammar

/-! ## Operands -/

/-- How many of the words are taken as operands, the separator counted; `none` if they do not fit. -/
def Arity.count? (arity : Arity) (words : List Word) : Option Nat :=
  let lead := (words.takeWhile Word.isSeparator).length
  let run := (words.takeWhile fun w => !w.isOption).length
  let fits := ((words.drop lead).head?.map Word.isOperand).getD false
  match arity with
  | zeroOrMore => some run
  | oneOrMore => if fits then some run else none
  | one =>
    if fits then some (lead + 1 + ((words.drop (lead + 1)).takeWhile Word.isSeparator).length)
    else none
  | command => if fits then some words.length else none

/-- The operands among words; behind a command the separator is kept for it. -/
def Arity.operandsOf (arity : Arity) (words : List Word) : List String :=
  (if arity = command then words else words.filter fun w => !w.isSeparator).map (·.text)

namespace Grammar

variable (g : Grammar)

/-- Reads words; each step takes one at least, and `fuel` bounds their number. -/
def readWords : Nat → Reading → List Word → Except Stop Reading
  | 0, r, words => .ok { r with leftover := r.leftover ++ words.map (·.text) }
  | fuel + 1, r, ⟨_, .option switch attachment⟩ :: rest => do
    let (r, rest) ← g.takeOption r switch attachment rest
    readWords fuel r rest
  | fuel + 1, r, ⟨text, .unknownOption⟩ :: rest =>
    readWords fuel { r with leftover := r.leftover ++ [text] } rest
  | fuel + 1, r, words =>
    match if r.operands.isNone then g.operands.count? words else none with
    | some n =>
      let r := { r with operands := some (g.operands.operandsOf (words.take n)) }
      if words.any Word.isOption then readWords fuel r (words.drop n)
      else .ok { r with leftover := r.leftover ++ (words.drop n).map (·.text) }
    | none =>
      let run := words.takeWhile fun w => !w.isOption
      let r := { r with leftover := r.leftover ++ run.map (·.text) }
      if words.any Word.isOption then readWords fuel r (words.drop run.length) else .ok r

/-- Reads arguments; all operands but a command have to be there. -/
def read (arguments : List String) : Except Stop Reading := do
  let words ← g.words arguments
  let r ← g.readWords (words.length + 1) {} words
  if r.operands.isNone && g.operands != .command then .error .misuse else .ok r

end Grammar

end EachSubject.CommandLine
