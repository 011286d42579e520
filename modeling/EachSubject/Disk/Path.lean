import EachSubject.Text.Ranges

/-!
# Paths

A path is a list of parts between slashes, from the root of a disk or from wherever one stands. Empty
parts and parts of one point lead nowhere and are dropped when a path is read; parts of two points
stay, since what they lead back from has to be there.
-/

namespace EachSubject

/-- A path. -/
structure Path where
  /-- The slashes at its start: none if it is relative. Two are kept apart from one. -/
  anchor : String := ""
  parts : List String
deriving DecidableEq, Repr, Inhabited

namespace Path

/-- The anchor of a path that starts with so many slashes. -/
def anchorOf : Nat → String
  | 0 => ""
  | 2 => "//"
  | _ => "/"

/-- A part that leads somewhere. -/
def isStep (part : String) : Bool := part != "" && part != "."

/-- Reads a path. -/
def ofText (text : String) : Path where
  anchor := anchorOf (text.toList.takeWhile (· == '/')).length
  parts := ((Text.splitAtChar '/' text.toList).map String.ofList).filter isStep

/-- Starts from the root. -/
def isAbsolute (p : Path) : Bool := p.anchor != ""

/-- The text of a path; a point for the path that leads nowhere. -/
def text (p : Path) : String :=
  if p.anchor = "" && p.parts.isEmpty then "." else p.anchor ++ "/".intercalate p.parts

/-- The path to where a path's last part is looked up. -/
def parent (p : Path) : Path := { p with parts := p.parts.dropLast }

/-- The path with one more part. -/
def child (p : Path) (part : String) : Path := { p with parts := p.parts ++ [part] }

example : (ofText "./a//../b/.").text = "a/../b" := by decide +kernel
example : (ofText "///a").text = "/a" := by decide +kernel
example : (ofText "").text = "." := by decide +kernel

end Path

/-! ## Places -/

/-- A place on a disk: the names that lead to it from the root. -/
abbrev Place := List String

namespace Place

/-- The place where a part leads from a place, by the names alone. -/
def follow (here : Place) (part : String) : Place :=
  if part = ".." then here.dropLast else here ++ [part]

/-- The place where a path leads from a place, by the names alone. -/
def resolve (here : Place) (p : Path) : Place :=
  p.parts.foldl follow (if p.isAbsolute then [] else here)

/-- The path from the root to a place. -/
def path (place : Place) : Path := ⟨"/", place⟩

/-- A place and all those above it, from the innermost on. -/
def upward (place : Place) : List Place :=
  (List.range (place.length + 1)).map fun up => place.take (place.length - up)

example : upward ["a", "b"] = [["a", "b"], ["a"], []] := by decide

end Place

end EachSubject
