import EachSubject.Settings.Basic
import EachSubject.Text.Digit

/-!
# Settings from variables

Each setting has a variable that overrides it. The variable for the subjects counts whenever it is
set, even to nothing; the one for the directory only if it is not empty.
-/

namespace EachSubject

/-- The variables that are set, with their values. -/
abbrev Variables := List (String × String)

namespace Settings

/-- The items of a list separated by commas, without the blanks around them; blank items do not count. -/
def itemsOf (text : String) : List String :=
  (((Text.splitAtChar ',' text.toList).map Text.trimBlanks).filter (!·.isEmpty)).map String.ofList

/-- The value of the variable for a setting. -/
def given? (vars : Variables) (name : String) : Option String :=
  vars.lookup (variableStart ++ name)

/-- The verbosity with the value of its variable. -/
def verbosityWith (before : Int) : Option String → Except SettingsError Int
  | none => .ok before
  | some text =>
    match Text.wholeNumber? text with
    | some n => .ok n
    | none => .error (.verbosityVariable text)

/-- The settings with the values of the variables. -/
def withVariables (s : Settings) (vars : Variables) : Except SettingsError Settings := do
  let verbosity ← verbosityWith s.verbosity (given? vars "VERBOSITY")
  return {
    subjects := ((given? vars "SUBJECTS").map itemsOf).getD s.subjects
    outputDir := ((given? vars "OUTPUT_DIR").filter (!·.isEmpty)).or s.outputDir
    verbosity }

example : itemsOf " b, c d,, " = ["b", "c d"] := by decide +kernel

end Settings

end EachSubject
