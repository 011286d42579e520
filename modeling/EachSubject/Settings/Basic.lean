import EachSubject.Disk.Basic
import EachSubject.Text.Quoted
import EachSubject.Toml.Basic

/-!
# Settings

What a run may be told once for all: the subjects to wrap, the directory to write to, and how much to
log. Settings are refused with a message that names the file or the variable at fault.
-/

namespace EachSubject

structure Settings where
  /-- The import strings of the subjects that are wrapped when no others are given. -/
  subjects : List String := []
  /-- The directory that wrapper modules are written to. -/
  outputDir : Option String := none
  /-- How much is logged before flags raise or lower it. -/
  verbosity : Int := 0
deriving DecidableEq, Repr, Inhabited

/-- What is wrong with a settings file. -/
inductive SettingsCause where
  | malformed
  /-- Names that no setting has, in order. -/
  | unknownNames (names : List String)
  | subjectsNotTexts
  | outputDirNotText
  | verbosityNotInteger
deriving DecidableEq, Repr

/-- Why settings are refused. -/
inductive SettingsError where
  | file (path : String) (cause : SettingsCause)
  /-- The variable for the verbosity holds a text that is no integer. -/
  | verbosityVariable (text : String)
deriving DecidableEq, Repr

/-- Why there are no settings. -/
inductive SettingsFailure where
  | refused (error : SettingsError)
  /-- The file is no text. -/
  | notText
  /-- What should hold the section is no table. -/
  | noTable
  /-- The section neither holds settings nor lists unknown names. -/
  | noSettings
  | tooManyDigits
  | tooDeep
  | unreachable (fault : DiskFault)
deriving DecidableEq, Repr

/-- The section of a settings file that holds the settings. -/
def Settings.sectionName : String := "tool.iterwrap"

/-- What the names of the variables start with. -/
def Settings.variableStart : String := "ITERWRAP_"

/-- What is said about a file; of a malformed one, only which it is. -/
def SettingsCause.message (path : String) : SettingsCause → String
  | malformed => path
  | unknownNames names =>
    path ++ ": unknown [" ++ Settings.sectionName ++ "] key(s): " ++ ", ".intercalate names
  | subjectsNotTexts => path ++ ": 'subjects' must be a list of import strings"
  | outputDirNotText => path ++ ": 'output_dir' must be a string"
  | verbosityNotInteger => path ++ ": 'verbosity' must be an integer"

def SettingsError.message : SettingsError → String
  | file path cause => cause.message path
  | verbosityVariable text =>
    Settings.variableStart ++ "VERBOSITY=" ++ Text.quoted text ++ " is not a valid integer"

end EachSubject
