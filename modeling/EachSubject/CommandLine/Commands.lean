import EachSubject.CommandLine.Trace
import EachSubject.Shape.Document
import EachSubject.Wrapper.FileName

/-!
# The commands

Subjects are taken in order, and the first that is refused ends the run with a complaint and the
status one; what was shown or written for those before it stays.
-/

namespace EachSubject.CommandLine

open Work

/-! ## Refusals -/

/-- Why a command does not go on. -/
inductive Obstacle where
  /-- What was asked for is refused. -/
  | refused (message : String)
  | fault (fault : RunFault)

namespace Obstacle

def ofImport : Fault → Obstacle
  | .notDescribed e => .refused e.message
  | other => .fault (.lookup other)

def ofDescription : Fault → Obstacle
  | .notDescribed e => .refused e.message
  | other => .fault (.description other)

def ofEmission : EmissionFailure → Obstacle
  | .refused e => .refused e.message
  | failure => .fault (.emission failure)

def ofBuild : BuildFailure → Obstacle
  | .description cause => ofDescription cause
  | .emission failure => ofEmission failure

/-- Ends a run; a refusal is shown. -/
def finish : Obstacle → Work Ending
  | .refused message => do
    say (complaint message)
    return .exit 1
  | .fault cause => return .fault cause

end Obstacle

namespace Surroundings

variable (s : Surroundings)

/-- The subject class of an import string. -/
def subject (path : String) : Except Obstacle Value :=
  match s.world.resolveImport path with
  | .ok name => .ok (.ofClass name)
  | .error fault => .error (.ofImport fault)

/-! ## Describing -/

/-- Shows the overview of each subject. -/
def describe : List String → Work Ending
  | [] => return .exit 0
  | path :: rest =>
    match s.subject path with
    | .error obstacle => obstacle.finish
    | .ok subject => do
      logNotes (s.world.describeNotes subject)
      match s.world.describe subject with
      | .error fault => (Obstacle.ofDescription fault).finish
      | .ok shape =>
        tell (.overview shape.overview)
        describe rest

/-! ## Writing -/

/-- Makes the directory with all above it, and writes a wrapper module into it. -/
def writeInto (d : Disk) (dir : Path) (source : WrapperSource) : Except DiskFault Disk := do
  let d ← d.ensurePath s.here dir
  d.write s.here (dir.child (Wrapper.moduleFileName source.className)) source.code.toUTF8

/-- Prints a wrapper module, or writes it into a directory if one is given. -/
def deliver (outputDir : Option Path) (source : WrapperSource) : Work (Option RunFault) := do
  match outputDir with
  | none =>
    print source.code
    return none
  | some dir =>
    match s.writeInto (← get).disk dir source with
    | .error fault => return some (.disk fault)
    | .ok disk =>
      let written := (dir.child (Wrapper.moduleFileName source.className)).text
      modify fun t => { t with disk }
      log .info ("Wrote " ++ written)
      say (coloured "green" source.qualifiedName ++ " -> " ++ Text.escape written)
      return none

/-- Builds and delivers the wrapper of each subject. -/
def deliverAll (outputDir : Option Path) : List String → Work Ending
  | [] => return .exit 0
  | path :: rest =>
    match s.subject path with
    | .error obstacle => obstacle.finish
    | .ok subject => do
      logNotes (s.world.buildNotes subject)
      match s.world.build subject with
      | .error failure => (Obstacle.ofBuild failure).finish
      | .ok source =>
        match ← s.deliver outputDir source with
        | some fault => return .fault fault
        | none => deliverAll outputDir rest

/-- What is shown if there is no subject to wrap; the name of the section is escaped by hand. -/
def noSubjects : String :=
  coloured "yellow"
    ("No subjects given and none configured in \\[" ++ Settings.sectionName ++ "].")

/-- Builds and delivers the wrappers of the subjects, of which there has to be one. -/
def generate (outputDir : Option Path) (subjects : List String) : Work Ending :=
  if subjects.isEmpty then do
    say noSubjects
    return .exit 1
  else s.deliverAll outputDir subjects

/-! ## Wrapping a written shape -/

/-- The step of a problem's path, as it is shown. -/
def stepText : PathStep → String
  | .field name => name
  | .index position => toString position

/-- A problem on a line of its own. -/
def problemLine (p : Problem) : String :=
  "\n" ++ p.kind.code ++ ": " ++ ".".intercalate (p.path.map stepText)

/-- What is shown for a document that is no shape. -/
def invalidShape (path : Path) (problems : List Problem) : String :=
  coloured "red" ("Invalid descriptor " ++ Text.escape path.text ++ ":") ++
  Text.escape (String.join (problems.map problemLine))

/-- Writes the wrapper of the shape that a text describes. -/
def emitText (outputDir : Option Path) (path : Path) (text : String) : Work Ending := do
  match Validated.ofText SubjectShape.ofJson text with
  | .invalid problems =>
    say (invalidShape path problems)
    return .exit 1
  | .valid shape =>
    match shape.emit with
    | .error failure => (Obstacle.ofEmission failure).finish
    | .ok source =>
      match ← s.deliver outputDir source with
      | some fault => return .fault fault
      | none => return .exit 0

/-- Writes the wrapper of the shape that a file describes. -/
def emit (outputDir : Option Path) (path : Path) : Work Ending := do
  match (← get).disk.file? s.here path with
  | .error fault => return .fault (.disk fault)
  | .ok none =>
    say (coloured "red" ("Descriptor not found: " ++ Text.escape path.text))
    return .exit 1
  | .ok (some content) =>
    match String.fromUTF8? content with
    | none => return .fault .notText
    | some text => s.emitText outputDir path text

end Surroundings

end EachSubject.CommandLine
