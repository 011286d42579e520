import EachSubject.CommandLine.Commands
import EachSubject.CommandLine.Invocation

/-!
# The command line

A run reads its arguments, then its settings, and then does what the command asks for. Operands and
options override the settings, and flags raise or lower their verbosity.
-/

namespace EachSubject.CommandLine

open Work

namespace Surroundings

variable (s : Surroundings)

/-- The directory to write to: the one that the arguments give, or else the one of the settings; an
    empty one counts as none. -/
def outputDir (settings : Settings) (given : Option String) : Option Path :=
  ((given.filter (!·.isEmpty)).or (settings.outputDir.filter (!·.isEmpty))).map Path.ofText

/-- Does what a command asks for; without one, help is printed. -/
def perform (settings : Settings) : Option Command → Work Ending
  | some (.describe subjects) => s.describe subjects
  | some (.generate subjects dir) =>
    s.generate (outputDir settings dir) (if subjects.isEmpty then settings.subjects else subjects)
  | some (.emit descriptor dir) => s.emit (outputDir settings dir) (Path.ofText descriptor)
  | none => do
    print Help.program
    return .exit 0

/-- Loads the settings and performs a command with them. -/
def carryOut (invocation : Invocation) : Work Ending := do
  match Settings.load (← get).disk s.here s.vars with
  | .error (.refused e) =>
    tell (.text .errors (complaint e.message))
    return .exit 2
  | .error failure => return .fault (.settings failure)
  | .ok settings =>
    modify fun t => { t with level := .ofVerbosity (settings.verbosity + invocation.louder) }
    s.perform settings invocation.command

/-- Runs the program. -/
def run (arguments : List String) : Work Ending :=
  match Invocation.ofArguments arguments with
  | .error (.help text) => do
    print text
    return .exit 0
  | .error .misuse => return .misuse
  | .ok invocation => s.carryOut invocation

end Surroundings

end EachSubject.CommandLine
