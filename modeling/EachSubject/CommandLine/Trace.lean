import EachSubject.Build
import EachSubject.Import
import EachSubject.Overview
import EachSubject.Settings

/-!
# What a run does

A run works on a disk, prints, shows messages and tables on the terminal, and logs what it notes. It
ends with a status, or with a fault that nothing in it catches; what it did before stays.
-/

namespace EachSubject.CommandLine

/-! ## Logging -/

inductive LogLevel where
  | debug
  | info
  | warning
  | error
deriving DecidableEq, Repr

namespace LogLevel

def name : LogLevel → String
  | debug => "DEBUG"
  | info => "INFO"
  | warning => "WARNING"
  | error => "ERROR"

/-- How much a level matters. -/
def weight : LogLevel → Nat
  | debug => 1
  | info => 2
  | warning => 3
  | error => 4

/-- The least level that is logged at a verbosity: warnings at zero. -/
def ofVerbosity (verbosity : Int) : LogLevel :=
  if verbosity < 0 then error
  else if verbosity = 0 then warning
  else if verbosity = 1 then info
  else debug

end LogLevel

/-! ## Messages -/

/-- Where a message is shown. -/
inductive Stream where
  | output
  | errors
deriving DecidableEq, Repr

/-- What is shown on the terminal. -/
inductive Message where
  | text (stream : Stream) (markup : String)
  | overview (table : Overview)
deriving DecidableEq, Repr

/-- The markup of a text in a colour; the text is markup itself. -/
def coloured (colour markup : String) : String :=
  "[" ++ colour ++ "]" ++ markup ++ "[/" ++ colour ++ "]"

/-- The markup that shows a text in red. -/
def complaint (text : String) : String := coloured "red" (Text.escape text)

/-! ## Runs -/

/-- What a run did so far. -/
structure Trace where
  disk : Disk
  /-- The least level that is logged. -/
  level : LogLevel := .warning
  /-- What was printed. -/
  printed : String := ""
  /-- What was shown, in order. -/
  shown : List Message := []
  /-- What was logged, in order. -/
  logs : List (LogLevel × String) := []
deriving Inhabited

/-- What a run is given besides its arguments and its disk. -/
structure Surroundings where
  world : World
  /-- The directory in which the run stands. -/
  here : Place
  vars : Variables

/-- What a run does not catch. -/
inductive RunFault where
  | settings (failure : SettingsFailure)
  /-- A subject can be neither found nor refused. -/
  | lookup (fault : Fault)
  | description (fault : Fault)
  | emission (failure : EmissionFailure)
  | disk (fault : DiskFault)
  /-- A file is no text. -/
  | notText

/-- What a run says of a fault that it does not catch. -/
def RunFault.message : RunFault → String
  | settings _ => "The settings cannot be read."
  | lookup fault => "A subject cannot be looked up. " ++ fault.message
  | description fault => "A subject cannot be described. " ++ fault.message
  | emission _ => "A wrapper cannot be written."
  | disk _ => "A file or directory cannot be used."
  | notText => "A file is no text."

/-- How a run ends. -/
inductive Ending where
  | exit (status : Nat)
  /-- The arguments do not fit. -/
  | misuse
  | fault (fault : RunFault)

/-- A part of a run. -/
abbrev Work (α : Type) := StateM Trace α

namespace Work

def print (text : String) : Work Unit :=
  modify fun t => { t with printed := t.printed ++ text }

/-- Shows a message. -/
def tell (message : Message) : Work Unit :=
  modify fun t => { t with shown := t.shown ++ [message] }

/-- Shows a message on the output stream. -/
def say (markup : String) : Work Unit := tell (.text .output markup)

/-- Logs a text, if its level is logged. -/
def log (level : LogLevel) (text : String) : Work Unit :=
  modify fun t =>
    if t.level.weight ≤ level.weight then { t with logs := t.logs ++ [(level, text)] } else t

/-- Logs notes for those who follow the work closely. -/
def logNotes (notes : List Note) : Work Unit :=
  modify fun t =>
    if t.level = .debug then { t with logs := t.logs ++ notes.map fun n => (.debug, n.message) } else t

end Work

end EachSubject.CommandLine
