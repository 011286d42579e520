import EachSubject.CommandLine

/-!
# The program

Looks at the files that a run needs, lets it run on what was found, and then carries out what it did:
its directories and files are written, its texts printed. The program by itself knows no classes, so
only written shapes can be wrapped with it.
-/

namespace EachSubject.CommandLine

/-- The places that a path passes through. -/
def visited (here : Place) (p : Path) : List Place :=
  (List.range (p.parts.length + 1)).map fun n => here.resolve { p with parts := p.parts.take n }

/-- The paths that a run uses besides the settings file. -/
def Surroundings.pathsUsed (s : Surroundings) (d : Disk) (arguments : List String) : List Path :=
  let outputs (dir : Option String) : List Path :=
    match Settings.load d s.here s.vars with
    | .ok settings => (outputDir settings dir).toList
    | .error _ => []
  match Invocation.ofArguments arguments with
  | .ok { command := some (.generate _ dir), .. } => outputs dir
  | .ok { command := some (.emit descriptor dir), .. } => Path.ofText descriptor :: outputs dir
  | _ => []

/-- Adds what stands at a place. -/
def look (d : Disk) (place : Place) : IO Disk := do
  let base ← IO.currentDir
  match ← (base / place.path.text).metadata.toBaseIO with
  | .error _ => return d
  | .ok found =>
    match found.type with
    | .dir => return d.put place .directory
    | .file => return d.put place (.file (← IO.FS.readBinFile (base / place.path.text)))
    | _ => return d

/-- Adds what stands in a directory. -/
def lookInside (d : Disk) (place : Place) : IO Disk := do
  let base ← IO.currentDir
  if ← (base / place.path.text).isDir then
    let inside ← (base / place.path.text).readDir
    inside.foldlM (fun d found => look d (place ++ [found.fileName])) d
  else return d

/-- The disk at a place: all directories above it, with their settings files. -/
def surroundingDisk (here : Place) : IO Disk := do
  let d ← here.upward.foldlM look {}
  here.upward.foldlM (fun d place => look d (place ++ [Settings.fileName])) d

/-- Adds what a run finds at the paths that it uses. -/
def lookAlong (here : Place) (d : Disk) (paths : List Path) : IO Disk := do
  let d ← (paths.flatMap (visited here)).foldlM look d
  (paths.map here.resolve).foldlM lookInside d

/-- Writes what is new or changed, directories before the files in them. -/
def carryOver (before after : Disk) : IO Unit := do
  let base ← IO.currentDir
  for (place, entry) in after.since before do
    match entry with
    | .directory => IO.FS.createDirAll (base / place.path.text)
    | .file content => IO.FS.writeBinFile (base / place.path.text) content

/-- The lines of a table. -/
def tableLines (table : Overview) : List String :=
  table.title :: (table.headers :: table.rows).map fun cells => "  ".intercalate cells

/-- Prints a message. -/
def display : Message → IO Unit
  | .text .output markup => IO.println markup
  | .text .errors markup => IO.eprintln markup
  | .overview table => (tableLines table).forM IO.println

/-- Prints what a run printed, showed and logged. -/
def report (t : Trace) : IO Unit := do
  IO.print t.printed
  t.shown.forM display
  t.logs.forM fun (level, text) => IO.eprintln (level.name ++ " " ++ text)

/-- The variables that settings are read from. -/
def settingsVariables : IO Variables :=
  ["SUBJECTS", "OUTPUT_DIR", "VERBOSITY"].filterMapM fun name => do
    let full := Settings.variableStart ++ name
    return (← IO.getEnv full).map fun value => (full, value)

/-- Tells how a run ended, as a status. -/
def Ending.close : Ending → IO UInt32
  | .exit status => return status.toUInt32
  | .misuse => do
    IO.eprintln ((Help.program.takeWhile (· != '\n')).toString)
    return 2
  | .fault cause => do
    IO.eprintln cause.message
    return 1

end EachSubject.CommandLine

open EachSubject EachSubject.CommandLine

def main (arguments : List String) : IO UInt32 := do
  let here := Place.resolve [] (Path.ofText (← IO.currentDir).toString)
  let s : Surroundings := { world := .empty, here, vars := ← settingsVariables }
  let found ← surroundingDisk here
  let before ← lookAlong here found (s.pathsUsed found arguments)
  let (ending, t) := (s.run arguments).run { disk := before }
  carryOver before t.disk
  report t
  ending.close
