import EachSubject.Shape.Basic

/-!
# Messages of failed checks

A message tells what was claimed of which value: "Not true that" the value under check, what was
claimed, and the other values. Every value is shown by its text, which is cut if it is long; a name
given to the subject stands for the value under check and is never cut.
-/

namespace EachSubject.Check

/-- The longest text of a value that is shown whole. -/
def shownLength : Nat := 30

/-- What stands for the end of a text that was cut. -/
def cutMark : String := "..."

/-- A text, cut to the length that is shown if it is longer. -/
def shorten (text : String) : String :=
  if text.length ≤ shownLength then text
  else String.ofList (text.toList.take (shownLength - cutMark.length)) ++ cutMark

/-- A shown value in its brackets. -/
def bracketed (text : String) : String := "<" ++ text ++ ">"

/-- The message that a check of the subject failed, from the texts of all that is shown. -/
def message (subject verb : String) (others : List String) : String :=
  "Not true that " ++ bracketed subject ++ " " ++ verb ++
  (if others.isEmpty then ""
    else " " ++ ", ".intercalate (others.map fun text => bracketed (shorten text)))

/-- The message for a list of failures: their number, and then every message on a line. -/
def summary (failures : List Failure) : String :=
  toString failures.length ++ " check(s) failed:\n" ++ "\n".intercalate (failures.map (·.message))

end EachSubject.Check
