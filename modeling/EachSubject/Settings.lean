import EachSubject.Settings.Section
import EachSubject.Settings.Variables

/-!
# Loading settings

The settings file is the nearest one at or above a place. What it does not set stays as it is without
a file, and variables override both.
-/

namespace EachSubject

namespace Settings

/-- The name of a settings file. -/
def fileName : String := "pyproject.toml"

/-- Finds the first of the places where a settings file stands, with its content. -/
def findFile (d : Disk) : List Place → Except DiskFault (Option (Path × ByteArray))
  | [] => .ok none
  | place :: rest => do
    let path := place.path.child fileName
    match ← d.file? [] path with
    | some content => .ok (some (path, content))
    | none => findFile d rest

/-- The settings file nearest to a place: the one in it, or else the first one above. -/
def nearestFile (d : Disk) (start : Place) : Except DiskFault (Option (Path × ByteArray)) :=
  findFile d start.upward

/-- The settings that hold at a place. -/
def load (d : Disk) (start : Place) (vars : Variables) : Except SettingsFailure Settings := do
  let base : Settings := {}
  let settings ←
    match ← (nearestFile d start).mapError .unreachable with
    | some (path, content) => base.withFile path.text content
    | none => .ok base
  (settings.withVariables vars).mapError .refused

end Settings

end EachSubject
