import EachSubject.Settings.Basic
import EachSubject.Toml.Reader

/-!
# Settings from a file

The section of a settings file is a table whose names are those of the settings. Names are looked at
before values, and the values in the order of the settings; the first fault counts. A text in the
place of the table lists its characters as names, and an array its items.
-/

namespace EachSubject

namespace Settings

/-- The names of the settings. -/
def names : List String := ["subjects", "output_dir", "verbosity"]

/-! ## Names -/

/-- The text of a value that is one. -/
def textOf? : Toml.Value → Option String
  | .text t => some t
  | _ => none

/-- What a section lists, with `none` for a thing that cannot be a name. Only tables, texts, and arrays
    without tables or arrays in them list anything. -/
def listed? : Toml.Value → Option (List (Option String))
  | .table entries => some (entries.map fun (name, _) => some name)
  | .text t => some (t.toList.map fun c => some (String.singleton c))
  | .array items => if items.any (·.holdsValues) then none else some (items.map textOf?)
  | _ => none

/-- The names in alphabetical order, each once. -/
def alphabetical (names : List String) : List String :=
  names.eraseDups.mergeSort fun a b => a ≤ b

/-- Refuses a section that lists anything but names of settings. -/
def checkNames (path : String) (listed : List (Option String)) : Except SettingsFailure Unit :=
  let unknown := listed.filter fun name => (name.filter names.contains).isNone
  if unknown.isEmpty then .ok ()
  else
    match unknown.mapM id with
    | some found => .error (.refused (.file path (.unknownNames (alphabetical found))))
    | none => .error .noSettings

/-! ## Values -/

/-- The subjects that a value lists. -/
def subjectsOf? : Toml.Value → Option (List String)
  | .array items => items.mapM textOf?
  | _ => none

/-- The verbosity that a value gives. -/
def verbosityOf? : Toml.Value → Option Int
  | .integer n => some n
  | _ => none

/-- The value of a setting: as the table gives it, or the one from before if it does not. -/
def setting {α : Type} (read? : Toml.Value → Option α) (cause : SettingsCause) (before : α) :
    Option Toml.Value → Except SettingsCause α
  | none => .ok before
  | some value =>
    match read? value with
    | some a => .ok a
    | none => .error cause

/-- The settings with the values of a table. -/
def withTable (s : Settings) (table : Toml.Table) : Except SettingsCause Settings := do
  let subjects ← setting subjectsOf? .subjectsNotTexts s.subjects (table.lookup "subjects")
  let outputDir ← setting (fun v => (textOf? v).map some) .outputDirNotText s.outputDir
    (table.lookup "output_dir")
  let verbosity ← setting verbosityOf? .verbosityNotInteger s.verbosity (table.lookup "verbosity")
  return { subjects, outputDir, verbosity }

/-- The settings with the values of a section. -/
def withSection (s : Settings) (path : String) (value : Toml.Value) :
    Except SettingsFailure Settings :=
  match listed? value with
  | none => .error .noSettings
  | some listed => do
    checkNames path listed
    match value with
    | .table entries => (s.withTable entries).mapError fun cause => .refused (.file path cause)
    | _ => if listed.isEmpty then .ok s else .error .noSettings

/-! ## Files -/

/-- The section of a document; an empty one if it has none. -/
def sectionOf (document : Toml.Table) : Except SettingsFailure Toml.Value :=
  match document.lookup "tool" with
  | none => .ok (.table [])
  | some (.table tools) => .ok ((tools.lookup "iterwrap").getD (.table []))
  | some _ => .error .noTable

/-- What a fault of a document is to its settings. -/
def documentFailure (path : String) : Toml.Fault → SettingsFailure
  | .malformed => .refused (.file path .malformed)
  | .tooManyDigits => .tooManyDigits
  | .tooDeep => .tooDeep

/-- The settings with the values of a file, given its path and content. -/
def withFile (s : Settings) (path : String) (content : ByteArray) : Except SettingsFailure Settings :=
  match String.fromUTF8? content with
  | none => .error .notText
  | some text => do
    let document ← (Toml.read text).mapError (documentFailure path)
    s.withSection path (← sectionOf document)

end Settings

end EachSubject
