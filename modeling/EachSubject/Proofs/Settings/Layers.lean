import EachSubject.Proofs.Settings.Sections
import EachSubject.Settings
import Mathlib.Data.List.TakeWhile

/-!
# Settings in layers

The nearest settings file is the first one on the way up. It gives settings, or ends in a fault of its own, or is
refused. The variables give settings of their own, which are refused only for the text of the verbosity. What is refused
is refused with a message that names the file or the variable. The faults beyond that are those of a file that is no
text or no readable document, of a tool table that is none, and of a section that no names can be read from.

A variable overrides what the nearest file gives, and that overrides what holds without either, each setting by itself.
A list is read back from its items between commas, with blanks around the items and blank items among them; a number is
read back from its decimal digits.
-/

namespace EachSubject.Settings

/-! ## The nearest file -/

/-- A settings file with this content stands in the place, and none stands in a place between the start and it. -/
def IsNearest (d : Disk) (start place : Place) (content : ByteArray) : Prop :=
  ∃ nearer farther, start.upward = nearer ++ place :: farther ∧
    (∀ other ∈ nearer, d.file? [] (other.path.child fileName) = .ok none) ∧
    d.file? [] (place.path.child fileName) = .ok (some content)

/-- No settings file stands at or above the place. -/
def IsWithoutFile (d : Disk) (start : Place) : Prop :=
  ∀ place ∈ start.upward, d.file? [] (place.path.child fileName) = .ok none

section Search

variable {d : Disk} {start place : Place} {content : ByteArray}

private theorem findFile_passes {nearer : List Place} (rest : List Place)
    (absent : ∀ other ∈ nearer, d.file? [] (other.path.child fileName) = .ok none) :
    findFile d (nearer ++ rest) = findFile d rest := by
  induction nearer with
  | nil => rfl
  | cons first others ih =>
    rw [List.cons_append, findFile, absent first List.mem_cons_self]
    exact ih fun other among => absent other (List.mem_cons_of_mem _ among)

theorem nearestFile_of_isNearest (nearest : IsNearest d start place content) :
    nearestFile d start = .ok (some (place.path.child fileName, content)) := by
  obtain ⟨nearer, farther, upward, absent, found⟩ := nearest
  rw [nearestFile, upward, findFile_passes _ absent, findFile, found]
  rfl

theorem nearestFile_of_isWithoutFile (isWithoutFile : IsWithoutFile d start) : nearestFile d start = .ok none := by
  have passed := findFile_passes (d := d) [] isWithoutFile
  rwa [List.append_nil] at passed

end Search

/-! ## Files -/

/-- The content is the text of the document. -/
def IsDocument (content : ByteArray) (document : Toml.Table) : Prop :=
  ∃ text, String.fromUTF8? content = some text ∧ Toml.read text = .ok document

/-- The section of a document for the settings, which is an empty table if the document has none. -/
inductive HasSection (document : Toml.Table) : Toml.Value → Prop
  | withoutTools (absent : document.lookup "tool" = none) : HasSection document (.table [])
  | without {tools : Toml.Table} (holds : document.lookup "tool" = some (.table tools))
    (absent : tools.lookup "iterwrap" = none) : HasSection document (.table [])
  | here {tools : Toml.Table} {value : Toml.Value} (holds : document.lookup "tool" = some (.table tools))
    (found : tools.lookup "iterwrap" = some value) : HasSection document value

/-- What a file gives, where its settings are taken over. -/
inductive Gives (content : ByteArray) : Given → Prop
  | table {document entries : Toml.Table} {given : Given} (reads : IsDocument content document)
    (has : HasSection document (.table entries)) (lists : Lists entries given) : Gives content given
  | empty {document : Toml.Table} {value : Toml.Value} (reads : IsDocument content document)
    (has : HasSection document value) (holdsNothing : HoldsNothing value) : Gives content {}

/-- What a file fails with where it is not refused in the proper way. -/
inductive Stray (content : ByteArray) : SettingsFailure → Prop
  | notText (undecodable : String.fromUTF8? content = none) : Stray content .notText
  | tooManyDigits {text : String} (decoded : String.fromUTF8? content = some text)
    (failed : Toml.read text = .error .tooManyDigits) : Stray content .tooManyDigits
  | tooDeep {text : String} (decoded : String.fromUTF8? content = some text)
    (failed : Toml.read text = .error .tooDeep) : Stray content .tooDeep
  | noTable {document : Toml.Table} {tool : Toml.Value} (reads : IsDocument content document)
    (holds : document.lookup "tool" = some tool) (noTable : ∀ entries, tool ≠ .table entries) : Stray content .noTable
  | noSettings {document : Toml.Table} {value : Toml.Value} (reads : IsDocument content document)
    (has : HasSection document value) (shapeless : Shapeless value) : Stray content .noSettings

variable {s : Settings} {path : String} {content : ByteArray} {document : Toml.Table}

private theorem withFile_of_isDocument (reads : IsDocument content document) :
    s.withFile path content = (do s.withSection path (← sectionOf document)) := by
  obtain ⟨text, decoded, read⟩ := reads
  simp only [withFile, decoded, read]
  rfl

private theorem sectionOf_of_hasSection {value : Toml.Value} (has : HasSection document value) :
    sectionOf document = .ok value := by
  cases has with
  | withoutTools absent => rw [sectionOf, absent]
  | without holds absent => simp [sectionOf, holds, absent]
  | here holds found => simp [sectionOf, holds, found]

private theorem sectionOf_of_noTable {tool : Toml.Value} (holds : document.lookup "tool" = some tool)
    (noTable : ∀ entries, tool ≠ .table entries) : sectionOf document = .error .noTable := by
  rw [sectionOf, holds]
  cases tool with
  | table entries => exact absurd rfl (noTable entries)
  | text | integer | float | boolean | moment | array => rfl

/-- A document has a section, or something else than a table is where it should be. -/
private theorem hasSection_or_noTable (document : Toml.Table) : (∃ value, HasSection document value) ∨
    ∃ tool, document.lookup "tool" = some tool ∧ ∀ entries, tool ≠ .table entries := by
  cases holds : document.lookup "tool" with
  | none => exact .inl ⟨_, .withoutTools holds⟩
  | some tool =>
    cases tool with
    | table tools =>
      cases found : tools.lookup "iterwrap" with
      | none => exact .inl ⟨_, .without holds found⟩
      | some value => exact .inl ⟨value, .here holds found⟩
    | text | integer | float | boolean | moment | array => exact .inr ⟨_, rfl, by simp⟩

theorem withFile_of_gives {given : Given} (gives : Gives content given) :
    s.withFile path content = .ok (s.updated given) := by
  cases gives with
  | table reads has lists =>
    rw [withFile_of_isDocument reads, sectionOf_of_hasSection has]
    exact withSection_of_lists lists
  | empty reads has holdsNothing =>
    rw [withFile_of_isDocument reads, sectionOf_of_hasSection has]
    exact withSection_of_holdsNothing holdsNothing

theorem withFile_of_stray {failure : SettingsFailure} (stray : Stray content failure) :
    s.withFile path content = .error failure := by
  cases stray with
  | notText undecodable => rw [withFile, undecodable]
  | tooManyDigits decoded failed =>
    simp only [withFile, decoded, failed]
    rfl
  | tooDeep decoded failed =>
    simp only [withFile, decoded, failed]
    rfl
  | noTable reads holds noTable =>
    rw [withFile_of_isDocument reads, sectionOf_of_noTable holds noTable]
    rfl
  | noSettings reads has shapeless =>
    rw [withFile_of_isDocument reads, sectionOf_of_hasSection has]
    exact withSection_of_shapeless shapeless

/-- Every file gives settings, or ends in a fault of its own, or is refused. -/
theorem withFile_settles (s : Settings) (path : String) (content : ByteArray) :
    (∃ given, Gives content given) ∨ (∃ failure, Stray content failure) ∨
      ∃ cause, s.withFile path content = .error (.refused (.file path cause)) := by
  cases decoded : String.fromUTF8? content with
  | none => exact .inr (.inl ⟨_, .notText decoded⟩)
  | some text =>
    cases read : Toml.read text with
    | error fault =>
      cases fault with
      | malformed =>
        refine .inr (.inr ⟨.malformed, ?_⟩)
        simp only [withFile, decoded, read]
        rfl
      | tooManyDigits => exact .inr (.inl ⟨_, .tooManyDigits decoded read⟩)
      | tooDeep => exact .inr (.inl ⟨_, .tooDeep decoded read⟩)
    | ok document =>
      have reads : IsDocument content document := ⟨text, decoded, read⟩
      rcases hasSection_or_noTable document with ⟨value, has⟩ | ⟨tool, holds, noTable⟩
      · have reading := withSection_reading s path value
        have same : s.withFile path content = s.withSection path value := by
          rw [withFile_of_isDocument reads, sectionOf_of_hasSection has]
          rfl
        rw [same]
        generalize s.withSection path value = outcome at reading ⊢
        cases reading with
        | table lists => exact .inl ⟨_, .table reads has lists⟩
        | empty holdsNothing => exact .inl ⟨_, .empty reads has holdsNothing⟩
        | shapeless shapeless => exact .inr (.inl ⟨_, .noSettings reads has shapeless⟩)
        | refused => exact .inr (.inr ⟨_, rfl⟩)
      · exact .inr (.inl ⟨_, .noTable reads holds noTable⟩)

/-! ## Variables -/

/-- What the variables give: the subjects if their variable is set, the directory if its variable is not empty, and the
    verbosity if its variable is set, which has to hold an integer then. -/
structure Tell (vars : Variables) (told : Given) : Prop where
  subjects : told.subjects = (vars.lookup "ITERWRAP_SUBJECTS").map itemsOf
  outputDir : told.outputDir = (vars.lookup "ITERWRAP_OUTPUT_DIR").filter (!·.isEmpty)
  verbosity : (vars.lookup "ITERWRAP_VERBOSITY").map Text.wholeNumber? = told.verbosity.map some

variable {vars : Variables}

/-- Variables whose verbosity is an integer override the settings. -/
theorem withVariables_of_tell {told : Given} (tell : Tell vars told) :
    s.withVariables vars = .ok (s.updated told) := by
  have verbosity : verbosityWith s.verbosity (vars.lookup "ITERWRAP_VERBOSITY") =
      .ok (told.verbosity.getD s.verbosity) := by
    have held := tell.verbosity
    cases given : vars.lookup "ITERWRAP_VERBOSITY" with
    | none =>
      have unset : told.verbosity = none := by simpa [given] using held.symm
      rw [unset]
      rfl
    | some text =>
      obtain ⟨n, isInteger, read⟩ : ∃ n, told.verbosity = some n ∧ some n = Text.wholeNumber? text := by
        simpa [given] using held.symm
      rw [verbosityWith, isInteger, ← read]
      rfl
  rw [withVariables, show given? vars "VERBOSITY" = vars.lookup "ITERWRAP_VERBOSITY" from rfl, verbosity, updated,
    tell.subjects, tell.outputDir]
  rfl

/-- Other variables are refused for the text in the place of the verbosity. -/
theorem tell_or_refused (s : Settings) (vars : Variables) : (∃ told, Tell vars told) ∨
    ∃ text, vars.lookup "ITERWRAP_VERBOSITY" = some text ∧ Text.wholeNumber? text = none ∧
      s.withVariables vars = .error (.verbosityVariable text) := by
  cases given : vars.lookup "ITERWRAP_VERBOSITY" with
  | none => exact .inl ⟨⟨_, _, none⟩, rfl, rfl, by simp [given]⟩
  | some text =>
    cases read : Text.wholeNumber? text with
    | some n => exact .inl ⟨⟨_, _, some n⟩, rfl, rfl, by simp [given, read]⟩
    | none =>
      refine .inr ⟨text, rfl, read, ?_⟩
      rw [withVariables, show given? vars "VERBOSITY" = vars.lookup "ITERWRAP_VERBOSITY" from rfl, given, verbosityWith,
        read]
      rfl

/-! ## Loading -/

variable {d : Disk} {start place : Place}

theorem load_of_isNearest (nearest : IsNearest d start place content) :
    load d start vars = (do
      let settings ← ({} : Settings).withFile (place.path.child fileName).text content
      (settings.withVariables vars).mapError .refused) := by
  rw [load, nearestFile_of_isNearest nearest]
  rfl

/-- Above what the nearest file gives, the variables decide. -/
theorem load_of_gives {given : Given} (nearest : IsNearest d start place content) (gives : Gives content given) :
    load d start vars = ((({} : Settings).updated given).withVariables vars).mapError SettingsFailure.refused := by
  rw [load_of_isNearest nearest, withFile_of_gives gives]
  rfl

theorem load_of_isWithoutFile (isWithoutFile : IsWithoutFile d start) :
    load d start vars = (({} : Settings).withVariables vars).mapError SettingsFailure.refused := by
  rw [load, nearestFile_of_isWithoutFile isWithoutFile]
  rfl

/-! ## How loading ends -/

private theorem load_of_stray {failure : SettingsFailure} (nearest : IsNearest d start place content)
    (stray : Stray content failure) : load d start vars = .error failure := by
  rw [load_of_isNearest nearest, withFile_of_stray stray]
  rfl

/-- What is said about refused settings is about the file or about a variable. -/
inductive Blames (place : Place) (vars : Variables) : SettingsError → Prop
  | ofFile (cause : SettingsCause) : Blames place vars (.file (place.path.child fileName).text cause)
  | ofVariable {text : String} (given : vars.lookup "ITERWRAP_VERBOSITY" = some text)
    (unreadable : Text.wholeNumber? text = none) : Blames place vars (.verbosityVariable text)

private theorem Stray.not_refused {error : SettingsError} : ¬Stray content (.refused error) := by
  intro stray
  cases stray

/-- The ways in which loading ends. -/
private inductive Ends (place : Place) (content : ByteArray) (vars : Variables) : Except SettingsFailure Settings → Prop
  | loaded {given told : Given} (gives : Gives content given) (tell : Tell vars told) :
    Ends place content vars (.ok ((({} : Settings).updated given).updated told))
  | strays {failure : SettingsFailure} (stray : Stray content failure) : Ends place content vars (.error failure)
  | refused {error : SettingsError} (blames : Blames place vars error) :
    Ends place content vars (.error (.refused error))

private theorem load_ends (vars : Variables) (nearest : IsNearest d start place content) :
    Ends place content vars (load d start vars) := by
  rcases withFile_settles {} (place.path.child fileName).text content with
    ⟨given, gives⟩ | ⟨failure, stray⟩ | ⟨cause, refused⟩
  · rcases tell_or_refused (({} : Settings).updated given) vars with ⟨told, tell⟩ | ⟨text, held, unreadable, refused⟩
    · rw [load_of_gives nearest gives, withVariables_of_tell tell]
      exact .loaded gives tell
    · rw [load_of_gives nearest gives, refused]
      exact .refused (.ofVariable held unreadable)
  · rw [load_of_stray nearest stray]
    exact .strays stray
  · have failed : load d start vars = .error (.refused (.file (place.path.child fileName).text cause)) := by
      rw [load_of_isNearest nearest, refused]
      rfl
    rw [failed]
    exact .refused (.ofFile cause)

/-- Settings are loaded just if the nearest file and the variables give them, and hold what the variables give, or else
    what the file gives, or else nothing. Otherwise they are refused with what is said about the file or a variable,
    unless the file ends in one of the faults of its own. -/
theorem load_settles (nearest : IsNearest d start place content) :
    (∀ s, load d start vars = .ok s ↔
      ∃ given told, Gives content given ∧ Tell vars told ∧ s = (({} : Settings).updated given).updated told) ∧
    (∀ error, load d start vars = .error (.refused error) → Blames place vars error) ∧
    ∀ failure, (∀ error, failure ≠ .refused error) →
      (load d start vars = .error failure ↔ Stray content failure) := by
  have ends := load_ends vars nearest
  refine ⟨fun s => ⟨fun loaded => ?_, ?_⟩, fun error failed => ?_, fun failure other => ⟨fun failed => ?_, ?_⟩⟩
  · rw [loaded] at ends
    cases ends with
    | loaded gives tell => exact ⟨_, _, gives, tell, rfl⟩
  · rintro ⟨given, told, gives, tell, rfl⟩
    rw [load_of_gives nearest gives, withVariables_of_tell tell]
    rfl
  · rw [failed] at ends
    cases ends with
    | strays stray => exact absurd stray Stray.not_refused
    | refused blames => exact blames
  · rw [failed] at ends
    cases ends with
    | strays stray => exact stray
    | refused => exact absurd rfl (other _)
  · exact load_of_stray nearest

/-- A disk with nothing but a settings file in its root. -/
def rootDisk (content : ByteArray) : Disk := { entries := [([fileName], .file content)] }

theorem rootDisk_isNearest (content : ByteArray) : IsNearest (rootDisk content) [] [] content :=
  ⟨[], [], rfl, by simp, rfl⟩

/-- A number in the place of the tool table ends in a fault of its own, and an empty array passes for a section. -/
theorem misshapen_settles : load (rootDisk "tool = 3".toUTF8) [] [] = .error .noTable ∧
    load (rootDisk "tool.iterwrap = []".toUTF8) [] [] = .ok {} := by
  have number : IsDocument "tool = 3".toUTF8 [("tool", .integer 3)] := ⟨"tool = 3", rfl, rfl⟩
  have array : IsDocument "tool.iterwrap = []".toUTF8 [("tool", .table [("iterwrap", .array [])])] :=
    ⟨"tool.iterwrap = []", rfl, rfl⟩
  have gives : Gives "tool.iterwrap = []".toUTF8 {} := .empty array (.here rfl rfl) (.inr rfl)
  exact ⟨((load_settles (rootDisk_isNearest _)).2.2 _ (by simp)).2 (.noTable number rfl (by simp)),
    ((load_settles (rootDisk_isNearest _)).1 {}).2 ⟨{}, {}, gives, ⟨rfl, rfl, rfl⟩, rfl⟩⟩

end EachSubject.Settings

namespace EachSubject

namespace Text

/-! ## Pieces -/

theorem splitAtChar_eq_splitOn (separator : Char) (text : List Char) :
    splitAtChar separator text = text.splitOn separator := by
  induction text with
  | nil => simp [splitAtChar]
  | cons c rest ih =>
    rw [splitAtChar, List.splitOn_cons_eq_if_modifyHead, ih]
    by_cases same : c = separator
    · simp [same]
    · have pieces := List.splitOn_ne_nil separator rest
      cases found : rest.splitOn separator with
      | nil => exact absurd found pieces
      | cons piece others => simp [same]

/-- Blanks around a text are trimmed with those at its ends. -/
theorem trimBlanks_between {left right : List Char} (inner : List Char) (leftBlank : ∀ c ∈ left, isBlank c)
    (rightBlank : ∀ c ∈ right, isBlank c) : trimBlanks (left ++ inner ++ right) = trimBlanks inner := by
  have behind : ∀ text : List Char, (text ++ right).reverse.dropWhile isBlank = text.reverse.dropWhile isBlank := by
    intro text
    rw [List.reverse_append]
    exact List.dropWhile_append_of_pos (by simpa using rightBlank)
  rw [trimBlanks, trimBlanks, List.append_assoc, List.dropWhile_append_of_pos leftBlank, List.dropWhile_append]
  split
  · next nothing =>
    have blank : right.dropWhile isBlank = [] := List.dropWhile_eq_nil_iff.2 rightBlank
    rw [List.isEmpty_iff.1 nothing, blank]
  · rw [behind]

theorem trimBlanks_of_blank {text : List Char} (blank : ∀ c ∈ text, isBlank c) : trimBlanks text = [] := by
  rw [trimBlanks, List.dropWhile_eq_nil_iff.2 blank]
  rfl

/-! ## Digits -/

variable {c : Char} {digits : List Char}

private theorem digit_between (digit : c.isDigit = true) : 48 ≤ c.toNat ∧ c.toNat ≤ 57 := by
  simp only [Char.isDigit, Bool.and_eq_true, decide_eq_true_eq, UInt32.le_iff_toNat_le] at digit
  exact digit

private theorem digitValue?_of_isDigit (digit : c.isDigit = true) : digitValue? c = some (c.toNat - '0'.toNat) := by
  have between := digit_between digit
  have found : digitZeros.find? (fun first => first ≤ c.toNat && c.toNat < first + 10) = some 48 := by
    refine List.find?_cons_of_pos ?_
    simp only [Bool.and_eq_true, decide_eq_true_eq]
    omega
  rw [digitValue?, found]
  rfl

private theorem digitRun?_eq (all : ∀ d ∈ digits, d.isDigit = true) (value : Nat) :
    digitRun? value digits = some (Nat.ofDigitChars 10 digits value) := by
  induction digits generalizing value with
  | nil => rfl
  | cons d rest ih =>
    have digit := all d List.mem_cons_self
    have noUnderscore : d ≠ '_' := by
      rintro rfl
      cases digit
    rw [digitRun?, digitValue?_of_isDigit digit, Nat.ofDigitChars_cons]
    · exact ih (fun other among => all other (List.mem_cons_of_mem d among)) _
    · rintro _ _ rfl
      exact absurd rfl noUnderscore

private theorem naturalNumber?_toDigits (n : Nat) : naturalNumber? (Nat.toDigits 10 n) = some n := by
  have all : ∀ d ∈ Nat.toDigits 10 n, d.isDigit = true := fun d inside =>
    Nat.isDigit_of_mem_toDigits (by decide) (by decide) inside
  have value := Nat.ofDigitChars_toDigits (b := 10) (n := n) (by decide) (by decide)
  cases found : Nat.toDigits 10 n with
  | nil => exact absurd found Nat.toDigits_ne_nil
  | cons d rest =>
    rw [found] at all value
    rw [naturalNumber?, digitValue?_of_isDigit (all d List.mem_cons_self)]
    show digitRun? _ rest = some n
    rw [digitRun?_eq fun other among => all other (List.mem_cons_of_mem d among), ← value, Nat.ofDigitChars_cons]
    simp

private theorem untrimmed {text : List Char} (clean : ∀ c ∈ text, isNumberBlank c = false) :
    ((text.dropWhile isNumberBlank).reverse.dropWhile isNumberBlank).reverse = text := by
  have kept : ∀ text : List Char, (∀ c ∈ text, isNumberBlank c = false) → text.dropWhile isNumberBlank = text := by
    intro text clean
    cases text with
    | nil => rfl
    | cons c rest => rw [List.dropWhile_cons_of_neg (by simp [clean c])]
  rw [kept text clean, kept text.reverse (by simpa using clean), List.reverse_reverse]

private theorem isNumberBlank_of_isDigit (digit : c.isDigit = true) : isNumberBlank c = false := by
  have between := digit_between digit
  have noBlank : ∀ code ≤ 57, 48 ≤ code → blanks.holds code = false := by decide
  rw [isNumberBlank, isBlank, noBlank _ between.2 between.1, Bool.false_and]

/-- An integer is read back from its decimal digits, if they are not too many. -/
theorem wholeNumber?_toString {n : Int} (short : (Nat.toDigits 10 n.natAbs).length ≤ digitLimit) :
    wholeNumber? (toString n) = some n := by
  have all : ∀ d ∈ Nat.toDigits 10 n.natAbs, d.isDigit = true := fun d inside =>
    Nat.isDigit_of_mem_toDigits (by decide) (by decide) inside
  have clean : ∀ d ∈ Nat.toDigits 10 n.natAbs, isNumberBlank d = false := fun d inside =>
    isNumberBlank_of_isDigit (all d inside)
  have few : ((Nat.toDigits 10 n.natAbs).filter fun c => (digitValue? c).isSome).length ≤ digitLimit :=
    (List.length_filter_le _ _).trans short
  have read := naturalNumber?_toDigits n.natAbs
  rw [Int.toString_eq_repr, Int.repr_eq_if]
  by_cases positive : 0 ≤ n
  · have same : n.toNat = n.natAbs := by omega
    have back : ((n.natAbs : Nat) : Int) = n := by omega
    rw [if_pos positive, same, Nat.repr_eq_ofList_toDigits]
    simp only [wholeNumber?, String.toList_ofList, untrimmed clean]
    rw [if_neg (Nat.not_lt.2 few)]
    generalize Nat.toDigits 10 n.natAbs = digits at all read
    split
    · exact absurd (all '-' List.mem_cons_self) (by decide)
    · exact absurd (all '+' List.mem_cons_self) (by decide)
    · simp [read, back]
  · have same : (-n).toNat = n.natAbs := by omega
    have back : -((n.natAbs : Nat) : Int) = n := by omega
    have text : "-" ++ String.ofList (Nat.toDigits 10 n.natAbs) = String.ofList ('-' :: Nat.toDigits 10 n.natAbs) := by
      rw [← String.toList_inj]
      simp
    have signed : ∀ d ∈ '-' :: Nat.toDigits 10 n.natAbs, isNumberBlank d = false := by
      rw [List.forall_mem_cons]
      exact ⟨by decide, clean⟩
    rw [if_neg positive, same, Nat.repr_eq_ofList_toDigits, text]
    simp only [wholeNumber?, String.toList_ofList, untrimmed signed]
    rw [List.filter_cons_of_neg (by decide), if_neg (Nat.not_lt.2 few), read]
    exact congrArg some back

end Text

namespace Settings

/-! ## Items -/

/-- A text that can be an item of a list: not empty, without a comma, and without blanks at its ends. -/
structure IsItem (item : String) : Prop where
  nonempty : item ≠ ""
  noComma : ',' ∉ item.toList
  trimmed : Text.strip item = item

/-- A text of blanks. -/
def IsBlankText (text : String) : Prop := ∀ c ∈ text.toList, Text.isBlank c = true

/-- The pieces show the items in order, each between blanks, with pieces of blanks among them. -/
inductive Spelled : List String → List String → Prop
  | nil : Spelled [] []
  | blank {piece : String} {pieces items : List String} (isBlank : IsBlankText piece) (rest : Spelled pieces items) :
    Spelled (piece :: pieces) items
  | item {item left right : String} {pieces items : List String} (isItem : IsItem item) (leftBlank : IsBlankText left)
    (rightBlank : IsBlankText right) (rest : Spelled pieces items) :
    Spelled ((left ++ item ++ right) :: pieces) (item :: items)

private theorem comma_not_mem {text : String} (isBlank : IsBlankText text) : ',' ∉ text.toList := by
  intro among
  exact absurd (isBlank _ among) (by decide)

private theorem Spelled.noComma {pieces items : List String} (spelled : Spelled pieces items) :
    ∀ piece ∈ pieces, ',' ∉ piece.toList := by
  induction spelled with
  | nil => simp
  | blank isBlank _ ih =>
    rw [List.forall_mem_cons]
    exact ⟨comma_not_mem isBlank, ih⟩
  | item isItem leftBlank rightBlank _ ih =>
    rw [List.forall_mem_cons]
    refine ⟨?_, ih⟩
    simp only [String.toList_append, List.mem_append, not_or]
    exact ⟨⟨comma_not_mem leftBlank, isItem.noComma⟩, comma_not_mem rightBlank⟩

private theorem itemsOf_pieces {pieces items : List String} (spelled : Spelled pieces items) :
    (((pieces.map String.toList).map Text.trimBlanks).filter (!·.isEmpty)).map String.ofList = items := by
  induction spelled with
  | nil => rfl
  | blank isBlank _ ih =>
    have trimmed := Text.trimBlanks_of_blank isBlank
    simpa [trimmed] using ih
  | @item item left right pieces items isItem leftBlank rightBlank _ ih =>
    have trimmed : Text.trimBlanks (left ++ item ++ right).toList = item.toList := by
      rw [String.toList_append, String.toList_append, Text.trimBlanks_between _ leftBlank rightBlank]
      simpa [Text.strip] using congrArg String.toList isItem.trimmed
    have kept : item.toList.isEmpty = false := by simpa using isItem.nonempty
    rw [List.map_cons, List.map_cons, trimmed, List.filter_cons_of_pos (by simp [kept]), List.map_cons,
      String.ofList_toList, ih]

/-- The items are read back from the text that shows them between commas. -/
theorem itemsOf_intercalate {pieces items : List String} (spelled : Spelled pieces items) :
    itemsOf (",".intercalate pieces) = items := by
  by_cases nothing : pieces = []
  · subst nothing
    cases spelled
    rfl
  · have split : Text.splitAtChar ',' (",".intercalate pieces).toList = pieces.map String.toList := by
      rw [Text.splitAtChar_eq_splitOn, String.toList_intercalate]
      refine List.splitOn_intercalate ',' ?_ (by simpa using nothing)
      simpa using spelled.noComma
    rw [itemsOf, split, itemsOf_pieces spelled]

/-! ## Layers -/

variable {d : Disk} {start : Place} {vars : Variables} {given told : Given} {s : Settings}

/-- What the nearest settings file gives; nothing where there is no file. -/
inductive Underneath (d : Disk) (start : Place) : Given → Prop
  | file {place : Place} {content : ByteArray} {given : Given} (nearest : IsNearest d start place content)
    (gives : Gives content given) : Underneath d start given
  | without (isWithoutFile : IsWithoutFile d start) : Underneath d start {}

/-- Each setting is what its variable says, or else what the file gives, or else nothing. -/
structure Layered (given : Given) (vars : Variables) (s : Settings) : Prop where
  subjects : s.subjects = ((vars.lookup "ITERWRAP_SUBJECTS").map itemsOf).getD (given.subjects.getD [])
  outputDir : s.outputDir = ((vars.lookup "ITERWRAP_OUTPUT_DIR").filter (· ≠ "")).or given.outputDir
  verbosity : s.verbosity =
    ((vars.lookup "ITERWRAP_VERBOSITY").bind Text.wholeNumber?).getD (given.verbosity.getD 0)

private theorem load_of_underneath (beneath : Underneath d start given) :
    load d start vars = ((({} : Settings).updated given).withVariables vars).mapError SettingsFailure.refused := by
  cases beneath with
  | file nearest gives => exact load_of_gives nearest gives
  | without isWithoutFile => exact load_of_isWithoutFile isWithoutFile

private theorem layered_of_tell (tell : Tell vars told) :
    Layered given vars ((({} : Settings).updated given).updated told) := by
  refine ⟨?_, ?_, ?_⟩
  · simp [updated, tell.subjects]
  · have same : (fun text : String => !text.isEmpty) = fun text => decide (text ≠ "") := by
      funext text
      by_cases empty : text = "" <;> simp [empty]
    simp [updated, tell.outputDir, same]
  · have held := tell.verbosity
    cases isSet : vars.lookup "ITERWRAP_VERBOSITY" with
    | none =>
      have unset : told.verbosity = none := by simpa [isSet] using held.symm
      simp [updated, unset]
    | some text =>
      obtain ⟨n, isInteger, read⟩ : ∃ n, told.verbosity = some n ∧ some n = Text.wholeNumber? text := by
        simpa [isSet] using held.symm
      simp [updated, isInteger, ← read]

/-- Whatever is loaded is layered. -/
theorem layered_of_load (beneath : Underneath d start given) (loaded : load d start vars = .ok s) :
    Layered given vars s := by
  rw [load_of_underneath beneath] at loaded
  rcases tell_or_refused (({} : Settings).updated given) vars with ⟨told, tell⟩ | ⟨text, held, unreadable, refused⟩
  · rw [withVariables_of_tell tell] at loaded
    cases loaded
    exact layered_of_tell tell
  · rw [refused] at loaded
    cases loaded

private theorem load_of_number (beneath : Underneath d start given)
    (number : ∀ text, vars.lookup "ITERWRAP_VERBOSITY" = some text → ∃ n, Text.wholeNumber? text = some n) :
    ∃ s, load d start vars = .ok s := by
  rw [load_of_underneath beneath]
  rcases tell_or_refused (({} : Settings).updated given) vars with ⟨told, tell⟩ | ⟨text, held, unreadable, _⟩
  · rw [withVariables_of_tell tell]
    exact ⟨_, rfl⟩
  · obtain ⟨n, read⟩ := number text held
    rw [unreadable] at read
    cases read

/-- Settings above a valid file, or without any, are loaded unless the variable for the verbosity holds no integer. Each
    of them is what its variable says, or else what the file gives, or else nothing. So it is the same in any two runs
    in which its own variable and what the file gives for it are the same; a list of subjects is read back from the
    variable however it is spelled, and so is an integer from its digits. -/
theorem load_layers (vars : Variables) (beneath : Underneath d start given)
    (number : ∀ text, vars.lookup "ITERWRAP_VERBOSITY" = some text → ∃ n, Text.wholeNumber? text = some n) :
    ∃ s, load d start vars = .ok s ∧ Layered given vars s ∧
      (∀ d' start' given' vars' s', Underneath d' start' given' → load d' start' vars' = .ok s' →
        (given.subjects = given'.subjects → vars.lookup "ITERWRAP_SUBJECTS" = vars'.lookup "ITERWRAP_SUBJECTS" →
          s.subjects = s'.subjects) ∧
        (given.outputDir = given'.outputDir → vars.lookup "ITERWRAP_OUTPUT_DIR" = vars'.lookup "ITERWRAP_OUTPUT_DIR" →
          s.outputDir = s'.outputDir) ∧
        (given.verbosity = given'.verbosity → vars.lookup "ITERWRAP_VERBOSITY" = vars'.lookup "ITERWRAP_VERBOSITY" →
          s.verbosity = s'.verbosity)) ∧
      (∀ pieces items, Spelled pieces items → vars.lookup "ITERWRAP_SUBJECTS" = some (",".intercalate pieces) →
        s.subjects = items) ∧
      ∀ n : Int, (Nat.toDigits 10 n.natAbs).length ≤ Text.digitLimit →
        vars.lookup "ITERWRAP_VERBOSITY" = some (toString n) → s.verbosity = n := by
  obtain ⟨s, loaded⟩ := load_of_number beneath number
  have layered := layered_of_load beneath loaded
  refine ⟨s, loaded, layered, ?_, ?_, ?_⟩
  · intro d' start' given' vars' s' beneath' loaded'
    have layered' := layered_of_load beneath' loaded'
    refine ⟨fun sameKey sameVariable => ?_, fun sameKey sameVariable => ?_, fun sameKey sameVariable => ?_⟩
    · rw [layered.subjects, layered'.subjects, sameKey, sameVariable]
    · rw [layered.outputDir, layered'.outputDir, sameKey, sameVariable]
    · rw [layered.verbosity, layered'.verbosity, sameKey, sameVariable]
  · intro pieces items spelled isSet
    rw [layered.subjects, isSet, Option.map_some, itemsOf_intercalate spelled, Option.getD_some]
  · intro n short isSet
    rw [layered.verbosity, isSet, Option.bind_some, Text.wholeNumber?_toString short, Option.getD_some]

/-- A disk with a settings file in its root, and nothing in a directory below. -/
def nestedDisk (content : ByteArray) : Disk := { entries := [(["work"], .directory), ([fileName], .file content)] }

theorem nestedDisk_isNearest (content : ByteArray) : IsNearest (nestedDisk content) ["work"] [] content := by
  refine ⟨[["work"]], [], rfl, ?_, rfl⟩
  rw [List.forall_mem_singleton]
  rfl

/-- The subjects and the verbosity come from variables, the directory from the file above, since its variable is
    empty. -/
theorem nested_layered :
    load (nestedDisk "[tool.iterwrap]\noutput_dir = 'gen'\nverbosity = 1".toUTF8) ["work"]
        [("ITERWRAP_SUBJECTS", " shop:A ,, shop:B"), ("ITERWRAP_OUTPUT_DIR", ""), ("ITERWRAP_VERBOSITY", "-2")] =
      .ok { subjects := ["shop:A", "shop:B"], outputDir := some "gen", verbosity := -2 } := by
  have reads : IsDocument "[tool.iterwrap]\noutput_dir = 'gen'\nverbosity = 1".toUTF8
      [("tool", .table [("iterwrap", .table [("output_dir", .text "gen"), ("verbosity", .integer 1)])])] :=
    ⟨"[tool.iterwrap]\noutput_dir = 'gen'\nverbosity = 1", rfl, rfl⟩
  have lists : Lists [("output_dir", .text "gen"), ("verbosity", .integer 1)]
      { outputDir := some "gen", verbosity := some 1 } := ⟨by decide, rfl, rfl, rfl⟩
  have read : Text.wholeNumber? "-2" = some (-2) := by decide +kernel
  obtain ⟨s, loaded, layered, _⟩ := load_layers
    [("ITERWRAP_SUBJECTS", " shop:A ,, shop:B"), ("ITERWRAP_OUTPUT_DIR", ""), ("ITERWRAP_VERBOSITY", "-2")]
    (.file (nestedDisk_isNearest _) (.table reads (.here rfl rfl) lists))
    (by rintro _ ⟨⟩; exact ⟨_, read⟩)
  rw [loaded]
  obtain ⟨subjects, outputDir, verbosity⟩ := s
  obtain ⟨rfl, rfl, rfl⟩ := layered
  decide +kernel

end Settings

end EachSubject
