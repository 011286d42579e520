import EachSubject.CommandLine.Help
import EachSubject.CommandLine.Reading

/-!
# Invocations

What the arguments of the program ask for: a command with its operands, and how much to log. Options
for the program stand before the command, options for the command behind it.
-/

namespace EachSubject.CommandLine

/-- What is to be done. -/
inductive Command where
  | describe (subjects : List String)
  | generate (subjects : List String) (outputDir : Option String)
  | emit (descriptor : String) (outputDir : Option String)
deriving DecidableEq, Repr

structure Invocation where
  /-- How much the flags raise the verbosity. -/
  louder : Int
  command : Option Command
deriving DecidableEq, Repr

/-- The options for help, which every command knows. -/
def helpOptions : List (String × Switch) := [("-h", .help), ("--help", .help)]

/-- The options for the directory to write to. -/
def outputOptions : List (String × Switch) := [("-o", .outputDir), ("--output-dir", .outputDir)]

/-- The arguments of the program. -/
def programGrammar : Grammar where
  options := helpOptions ++
    [("-q", .quieter), ("--quiet", .quieter), ("-v", .louder), ("--verbose", .louder)]
  operands := .command
  help := Help.program

/-- The arguments of each command. -/
def commandGrammars : List (String × Grammar) :=
  [("describe", ⟨helpOptions, .oneOrMore, Help.describe⟩),
   ("generate", ⟨helpOptions ++ outputOptions, .zeroOrMore, Help.generate⟩),
   ("emit", ⟨helpOptions ++ outputOptions, .one, Help.emit⟩)]

namespace Reading

/-- How often a switch was given. -/
def times (r : Reading) (switch : Switch) : Nat := r.switches.countP (·.1 == switch)

/-- The directory given last. -/
def outputDir (r : Reading) : Option String :=
  (r.switches.filter (·.1 == .outputDir)).getLast?.bind (·.2)

/-- The command of a name with its operands. -/
def command? (r : Reading) (name : String) : Option Command :=
  match name, r.operands with
  | "describe", some subjects => some (.describe subjects)
  | "generate", some subjects => some (.generate subjects r.outputDir)
  | "emit", some [descriptor] => some (.emit descriptor r.outputDir)
  | _, _ => none

end Reading

/-- Reads a command with its arguments, all of which have to be of use. -/
def readCommand (name : String) (arguments : List String) : Except Stop Command :=
  match commandGrammars.lookup name with
  | none => .error .misuse
  | some g => do
    let r ← g.read arguments
    match r.command? name, r.leftover with
    | some command, [] => .ok command
    | _, _ => .error .misuse

/-- Reads the arguments of the program, all of which have to be of use. -/
def Invocation.ofArguments (arguments : List String) : Except Stop Invocation := do
  let r ← programGrammar.read arguments
  let command ←
    match r.operands with
    | some (name :: rest) => (readCommand name rest).map some
    | _ => .ok none
  if !r.leftover.isEmpty then .error .misuse
  else return { louder := (r.times .louder : Int) - r.times .quieter, command }

end EachSubject.CommandLine
