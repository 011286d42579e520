import EachSubject.Disk.Path

/-!
# Disks

A disk holds a directory or a file at a place. Every path is walked name by name: what a name is looked
up in has to be a directory. Writing leaves everything else on the disk as it was.
-/

namespace EachSubject

/-- What stands at a place. -/
inductive DiskEntry where
  | directory
  | file (content : ByteArray)
deriving Inhabited

namespace DiskEntry

def isDirectory : DiskEntry → Bool
  | directory => true
  | file _ => false

/-- Both are directories, or files with the same bytes. -/
def agrees : DiskEntry → DiskEntry → Bool
  | directory, directory => true
  | file a, file b => a.data.toList == b.data.toList
  | _, _ => false

end DiskEntry

/-- The directories and files by their places. -/
structure Disk where
  entries : List (Place × DiskEntry) := []
deriving Inhabited

/-- Why a path cannot be used. -/
inductive DiskFault where
  /-- Nothing is there. -/
  | missing
  /-- Something on the way is a file. -/
  | notDirectory
  /-- A file is where a directory should be made. -/
  | taken
  /-- A directory is where a file should be written. -/
  | isDirectory
  | nameTooLong
  /-- The path holds the NUL character. -/
  | nulCharacter
deriving DecidableEq, Repr

namespace Disk

/-- The most bytes that a name may take. -/
def nameLimit : Nat := 255

/-- The most bytes that a path may take. -/
def pathLimit : Nat := 4095

/-- What stands at a place. The root is a directory of every disk. -/
def entry? (d : Disk) (place : Place) : Option DiskEntry :=
  if place.isEmpty then some .directory else d.entries.lookup place

/-- The disk with an entry at a place, in the place of the one that was there. -/
def put (d : Disk) (place : Place) (entry : DiskEntry) : Disk where
  entries := (place, entry) :: d.entries.filter fun (other, _) => other != place

/-- Walks from a place along the parts of a path. The last place need not be there, but everything
    that a name is looked up in has to be a directory. -/
def walk (d : Disk) (here : Place) : List String → Except DiskFault Place
  | [] => .ok here
  | part :: rest =>
    match d.entry? here with
    | none => .error .missing
    | some (.file _) => .error .notDirectory
    | some .directory =>
      if nameLimit < part.utf8ByteSize then .error .nameTooLong
      else walk d (here.follow part) rest

/-- The place where a path leads from a place. -/
def locate (d : Disk) (here : Place) (p : Path) : Except DiskFault Place :=
  if p.text.toList.contains '\x00' then .error .nulCharacter
  else if pathLimit < p.text.utf8ByteSize then .error .nameTooLong
  else d.walk (if p.isAbsolute then [] else here) p.parts

/-- What a path leads to. Where it leads nowhere, there is nothing, unless a name is too long to be
    looked up. -/
def find (d : Disk) (here : Place) (p : Path) : Except DiskFault (Option DiskEntry) :=
  match d.locate here p with
  | .ok place => .ok (d.entry? place)
  | .error .nameTooLong => .error .nameTooLong
  | .error _ => .ok none

/-- The content of the file that a path leads to. -/
def file? (d : Disk) (here : Place) (p : Path) : Except DiskFault (Option ByteArray) :=
  (d.find here p).map fun
    | some (.file content) => some content
    | _ => none

/-- The entries that another disk does not have at their places, those put first in front. -/
def since (after before : Disk) : List (Place × DiskEntry) :=
  after.entries.reverse.filter fun (place, entry) =>
    !((before.entry? place).map entry.agrees).getD false

/-! ## Directories -/

/-- A path leads to a directory. -/
def isDirectory (d : Disk) (here : Place) (p : Path) : Except DiskFault Bool :=
  (d.find here p).map fun found => (found.map (·.isDirectory)).getD false

/-- Makes a directory in a directory that is there. -/
def makeDirectory (d : Disk) (here : Place) (p : Path) : Except DiskFault Disk := do
  let place ← d.locate here p
  match d.entry? place with
  | some _ => .error .taken
  | none => .ok (d.put place .directory)

/-- Makes a directory unless it is there. -/
def ensureDirectory (d : Disk) (here : Place) (p : Path) : Except DiskFault Disk :=
  match d.makeDirectory here p with
  | .ok made => .ok made
  | .error .missing => .error .missing
  | .error .nulCharacter => .error .nulCharacter
  | .error fault => do
    if ← d.isDirectory here p then .ok d else .error fault

/-- Makes the directories that the parts of a path lead through, so many parts at most. -/
def ensureParents (d : Disk) (here : Place) (p : Path) : Nat → Except DiskFault Disk
  | 0 => d.ensureDirectory here p
  | depth + 1 =>
    match d.ensureDirectory here p with
    | .error .missing => do
      let d ← d.ensureParents here p.parent depth
      d.ensureDirectory here p
    | outcome => outcome

/-- Makes a directory, with all directories on the way to it. -/
def ensurePath (d : Disk) (here : Place) (p : Path) : Except DiskFault Disk :=
  d.ensureParents here p p.parts.length

/-! ## Files -/

/-- Writes a file into a directory that is there. -/
def write (d : Disk) (here : Place) (p : Path) (content : ByteArray) : Except DiskFault Disk := do
  let place ← d.locate here p
  match d.entry? place with
  | some .directory => .error .isDirectory
  | _ => .ok (d.put place (.file content))

end Disk

end EachSubject
