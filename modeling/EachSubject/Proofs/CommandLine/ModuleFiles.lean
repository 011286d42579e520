import EachSubject.Proofs.CommandLine.Delivery
import EachSubject.Wrapper.FileName
import Mathlib.Data.List.Chain

/-!
# The files of wrapper modules

A class name that is written as capitalised words and acronyms, with no two acronyms side by side, is cut exactly
between its words. The file name shows them in lower case, and from capitalised words they can be read back.

Wrapper classes whose names are made of capitalised words are written to files of their own: only a wrapper of the same
name is ever written over.
-/

namespace EachSubject.Wrapper

/-! ## Words -/

/-- A capital, a small letter, and then small letters and digits. -/
def IsCapitalised (word : List Char) : Prop :=
  ∃ first second rest, word = first :: second :: rest ∧ isCapital first = true ∧ isSmall second = true ∧
    ∀ c ∈ rest, isSmallOrDigit c = true

/-- One or more capitals. -/
def IsAcronym (word : List Char) : Prop := word ≠ [] ∧ ∀ c ∈ word, isCapital c = true

def IsWord (word : List Char) : Prop := IsCapitalised word ∨ IsAcronym word

/-- Not both words are acronyms. -/
def StandApart (word next : List Char) : Prop := ¬ (IsAcronym word ∧ IsAcronym next)

/-- Words in which each boundary can be seen. -/
structure AreWords (words : List (List Char)) : Prop where
  each : ∀ word ∈ words, IsWord word
  apart : words.IsChain StandApart

/-- The text is made of capitalised words only. -/
def IsCapitalisedText (text : String) : Prop :=
  ∃ words : List (List Char), words ≠ [] ∧ (∀ word ∈ words, IsCapitalised word) ∧ text = String.ofList words.flatten

/-! ## Characters -/

theorem isCapital_iff {c : Char} : isCapital c = true ↔ 65 ≤ c.toNat ∧ c.toNat ≤ 90 := by
  simp only [isCapital, Bool.and_eq_true, decide_eq_true_eq]
  rfl

theorem isSmall_iff {c : Char} : isSmall c = true ↔ 97 ≤ c.toNat ∧ c.toNat ≤ 122 := by
  simp only [isSmall, Bool.and_eq_true, decide_eq_true_eq]
  rfl

theorem isSmallOrDigit_iff {c : Char} : isSmallOrDigit c = true ↔
    (97 ≤ c.toNat ∧ c.toNat ≤ 122) ∨ (48 ≤ c.toNat ∧ c.toNat ≤ 57) := by
  simp only [isSmallOrDigit, Bool.or_eq_true, isSmall_iff, Bool.and_eq_true, decide_eq_true_eq]
  rfl

theorem isSmallOrDigit_of_isSmall {c : Char} (small : isSmall c = true) : isSmallOrDigit c = true := by
  simp [isSmallOrDigit, small]

theorem not_isCapital {c : Char} (small : isSmallOrDigit c = true) : isCapital c = false := by
  rw [isSmallOrDigit_iff] at small
  rw [Bool.eq_false_iff, ne_eq, isCapital_iff]
  omega

theorem not_isSmall {c : Char} (capital : isCapital c = true) : isSmall c = false := by
  rw [isCapital_iff] at capital
  rw [Bool.eq_false_iff, ne_eq, isSmall_iff]
  omega

/-- The characters of words. -/
theorem IsWord.chars {word : List Char} (isWord : IsWord word) :
    ∀ c ∈ word, isCapital c = true ∨ isSmallOrDigit c = true := by
  intro c inside
  rcases isWord with ⟨first, second, rest, rfl, capital, small, others⟩ | ⟨_, capitals⟩
  · simp only [List.mem_cons] at inside
    rcases inside with rfl | rfl | later
    · exact .inl capital
    · exact .inr (isSmallOrDigit_of_isSmall small)
    · exact .inr (others c later)
  · exact .inl (capitals c inside)

/-- A word starts with a capital. -/
theorem IsWord.starts {word : List Char} (isWord : IsWord word) : ∃ first rest, word = first :: rest ∧
    isCapital first = true := by
  rcases isWord with ⟨first, second, rest, rfl, capital, _⟩ | ⟨nonempty, capitals⟩
  · exact ⟨first, second :: rest, rfl, capital⟩
  · obtain ⟨first, rest, rfl⟩ := List.exists_cons_of_ne_nil nonempty
    exact ⟨first, rest, rfl, capitals first List.mem_cons_self⟩

theorem IsCapitalised.not_isAcronym {word : List Char} (capitalised : IsCapitalised word) : ¬ IsAcronym word := by
  rintro ⟨_, capitals⟩
  obtain ⟨first, second, rest, rfl, _, small, _⟩ := capitalised
  have capital := capitals second (by simp)
  simp [not_isCapital (isSmallOrDigit_of_isSmall small)] at capital

/-! ## Boundaries -/

/-- No word begins at a character that is no capital. -/
theorem separateAfter_small {tail : List Char} (small : ∀ c ∈ tail, isSmallOrDigit c = true) :
    ∀ (before : Char) (rest : List Char),
      separateAfter before (tail ++ rest) = tail ++ separateAfter (tail.getLastD before) rest := by
  induction tail with
  | nil => intro before rest; rfl
  | cons c tail ih =>
    intro before rest
    have noWord : beginsWord before (c :: (tail ++ rest)) = false := by
      simp [beginsWord, not_isCapital (small c List.mem_cons_self)]
    rw [List.cons_append, separateAfter, noWord, List.getLastD_cons]
    simp [ih (fun d later => small d (List.mem_cons_of_mem c later)) c rest]

/-- No word begins inside a run of capitals, unless a small letter comes behind it. -/
theorem separateAfter_capitals {tail rest : List Char} (capitals : ∀ c ∈ tail, isCapital c = true)
    (noSmall : ∀ c ∈ rest.head?, isSmall c = false) : ∀ before, isCapital before = true →
      separateAfter before (tail ++ rest) = tail ++ separateAfter (tail.getLastD before) rest := by
  induction tail with
  | nil => intro before _; rfl
  | cons c tail ih =>
    intro before capital
    have isCapital' := capitals c List.mem_cons_self
    have further : ∀ d ∈ (tail ++ rest).head?, isSmall d = false := by
      intro d next
      cases tail with
      | nil => exact noSmall d next
      | cons d' _ =>
        obtain rfl : d' = d := by simpa using next
        exact not_isSmall (capitals d' (by simp))
    have noWord : beginsWord before (c :: (tail ++ rest)) = false := by
      have notSmall : isSmallOrDigit before = false := by
        by_contra small
        have := not_isCapital (by simpa using small)
        simp_all
      cases next : (tail ++ rest).head? with
      | none => simp [beginsWord, notSmall, next]
      | some d => simp [beginsWord, notSmall, next, further d (by simp [next])]
    rw [List.cons_append, separateAfter, noWord, List.getLastD_cons]
    simp [ih (fun d later => capitals d (List.mem_cons_of_mem c later)) c isCapital']

/-- Within a word nothing is put between two characters. -/
theorem separateAfter_inside {first : Char} {tail rest : List Char} (isWord : IsWord (first :: tail))
    (noSmall : ∀ c ∈ rest.head?, isSmall c = false) :
    separateAfter first (tail ++ rest) = tail ++ separateAfter (tail.getLastD first) rest := by
  rcases isWord with ⟨_, second, others, same, capital, small, further⟩ | ⟨_, capitals⟩
  · obtain ⟨rfl, rfl⟩ := List.cons.inj same
    refine separateAfter_small (fun c inside => ?_) first rest
    rcases List.mem_cons.1 inside with rfl | later
    · exact isSmallOrDigit_of_isSmall small
    · exact further c later
  · exact separateAfter_capitals (fun c inside => capitals c (List.mem_cons_of_mem first inside)) noSmall first
      (capitals first List.mem_cons_self)

/-- A word begins behind another one, as long as not both are acronyms. -/
theorem beginsWord_behind {first next : Char} {tail others rest : List Char} (isWord : IsWord (first :: tail))
    (isNext : IsWord (next :: others)) (apart : StandApart (first :: tail) (next :: others)) :
    beginsWord (tail.getLastD first) (next :: (others ++ rest)) = true := by
  have capital : isCapital next = true := by
    obtain ⟨_, _, same, capital⟩ := isNext.starts
    cases same
    exact capital
  rw [beginsWord, capital, Bool.true_and, Bool.or_eq_true, Bool.and_eq_true]
  rcases isWord with ⟨_, second, more, same, _, small, further⟩ | acronym
  · obtain ⟨rfl, rfl⟩ := List.cons.inj same
    left
    rw [List.getLastD_cons]
    rcases List.mem_cons.1 List.getLastD_mem_cons with isLast | later
    · rw [isLast]
      exact isSmallOrDigit_of_isSmall small
    · exact further _ later
  · -- behind an acronym stands a capitalised word, whose second character is small
    right
    refine ⟨acronym.2 _ List.getLastD_mem_cons, ?_⟩
    rcases isNext with ⟨_, second, more, same, _, small, _⟩ | acronym'
    · obtain ⟨rfl, rfl⟩ := List.cons.inj same
      simp [small]
    · exact absurd ⟨acronym, acronym'⟩ apart

/-- Behind a word, each further word gets an underscore in front. -/
theorem separateAfter_words : ∀ {words : List (List Char)} {first : Char} {tail : List Char},
    AreWords ((first :: tail) :: words) →
      separateAfter first (tail ++ words.flatten) = tail ++ (words.map ('_' :: ·)).flatten
  | [], first, tail, areWords => by
    have isWord := areWords.each (first :: tail) List.mem_cons_self
    have inside := @separateAfter_inside first tail [] isWord (by simp)
    simpa [separateAfter] using inside
  | word :: words, first, tail, areWords => by
    obtain ⟨apart, chain⟩ := List.isChain_cons_cons.1 areWords.apart
    have isNext := areWords.each word (by simp)
    obtain ⟨next, others, rfl, capital⟩ := isNext.starts
    have further : AreWords ((next :: others) :: words) :=
      ⟨fun w among => areWords.each w (List.mem_cons_of_mem _ among), chain⟩
    have isWord := areWords.each (first :: tail) List.mem_cons_self
    have noSmall : ∀ c ∈ ((next :: others) :: words).flatten.head?, isSmall c = false := by
      simp [not_isSmall capital]
    rw [separateAfter_inside isWord noSmall, List.flatten_cons, List.cons_append, separateAfter,
      beginsWord_behind isWord isNext apart, if_pos rfl, separateAfter_words further]
    simp

theorem intercalate_underscores (word : List Char) (words : List (List Char)) :
    List.intercalate ['_'] (word :: words) = word ++ (words.map ('_' :: ·)).flatten := by
  induction words generalizing word with
  | nil => simp
  | cons next words ih => simp [List.intercalate_cons_cons, ih next]

/-- Exactly the boundaries of words are marked. -/
theorem separateWords_flatten {words : List (List Char)} (areWords : AreWords words) :
    separateWords words.flatten = List.intercalate ['_'] words := by
  cases words with
  | nil => rfl
  | cons word words =>
    obtain ⟨first, tail, rfl, _⟩ := (areWords.each word List.mem_cons_self).starts
    rw [List.flatten_cons, List.cons_append, separateWords, separateAfter_words areWords, intercalate_underscores,
      List.cons_append]

/-! ## Lower case -/

theorem lowerFrom_ascii {text : List Char} (ascii : ∀ c ∈ text, c.toNat < 128) :
    ∀ before, Text.lowerFrom before text = text.map Char.toLower := by
  induction text with
  | nil => intro before; rfl
  | cons c rest ih =>
    intro before
    have small := ascii c List.mem_cons_self
    have noSigma : c ≠ '\u03a3' := by rintro rfl; exact absurd small (by decide)
    have noDotted : c ≠ '\u0130' := by rintro rfl; exact absurd small (by decide)
    rw [Text.lowerFrom, if_neg noSigma, if_neg noDotted, Text.smallLetter_ascii small,
      ih fun d later => ascii d (List.mem_cons_of_mem c later)]
    rfl

theorem IsWord.ascii {word : List Char} (isWord : IsWord word) : ∀ c ∈ word, c.toNat < 128 := by
  intro c inside
  rcases isWord.chars c inside with capital | small
  · rw [isCapital_iff] at capital
    omega
  · rw [isSmallOrDigit_iff] at small
    omega

/-- Words with underscores between them are put in lower case one by one. -/
theorem lowercase_intercalate {words : List (List Char)} (areWords : ∀ word ∈ words, IsWord word) :
    Text.lowercase (String.ofList (List.intercalate ['_'] words)) =
      String.ofList (List.intercalate ['_'] (words.map (List.map Char.toLower))) := by
  cases words with
  | nil => rfl
  | cons word words =>
    have ascii : ∀ c ∈ word ++ (words.map ('_' :: ·)).flatten, c.toNat < 128 := by
      intro c inside
      simp only [List.mem_append, List.mem_flatten, List.mem_map] at inside
      rcases inside with inside | ⟨_, ⟨other, among, rfl⟩, inside⟩
      · exact (areWords word List.mem_cons_self).ascii c inside
      · rcases List.mem_cons.1 inside with rfl | inside
        · decide
        · exact (areWords other (List.mem_cons_of_mem word among)).ascii c inside
    rw [Text.lowercase, String.toList_ofList, intercalate_underscores, lowerFrom_ascii ascii, List.map_cons,
      intercalate_underscores]
    simp only [List.map_append, List.map_flatten, List.map_map]
    rfl

/-- The file name shows the words in lower case, with underscores between them. -/
theorem moduleFileName_flatten {words : List (List Char)} (areWords : AreWords words) :
    moduleFileName (String.ofList words.flatten) =
      String.ofList (List.intercalate ['_'] (words.map (List.map Char.toLower))) ++ ".py" := by
  rw [moduleFileName, String.toList_ofList, separateWords_flatten areWords, lowercase_intercalate areWords.each]

/-! ## Reading words back -/

theorem toLower_small {c : Char} (small : isSmallOrDigit c = true) : c.toLower = c := by
  refine dif_neg ?_
  intro capital
  rw [isSmallOrDigit_iff] at small
  have := UInt32.le_iff_toNat_le.1 capital.1
  have := UInt32.le_iff_toNat_le.1 capital.2
  have first : 'A'.val.toNat = 65 := rfl
  have last : 'Z'.val.toNat = 90 := rfl
  have value : c.val.toNat = c.toNat := rfl
  omega

theorem toNat_toLower {c : Char} (capital : isCapital c = true) : c.toLower.toNat = c.toNat + 32 := by
  rw [isCapital_iff] at capital
  have first : 'A'.val.toNat = 65 := rfl
  have last : 'Z'.val.toNat = 90 := rfl
  have value : c.val.toNat = c.toNat := rfl
  have inside : c.val ≥ 'A'.val ∧ c.val ≤ 'Z'.val := by
    constructor <;> (apply UInt32.le_iff_toNat_le.2; omega)
  have distance : ('a'.val - 'A'.val).toNat = 32 := rfl
  have lower : c.toLower.val = c.val + ('a'.val - 'A'.val) := congrArg Char.val (dif_pos inside)
  change c.toLower.val.toNat = c.toNat + 32
  rw [lower]
  rw [UInt32.toNat_add]
  omega

/-- A capitalised word is known from its lower case. -/
theorem IsCapitalised.eq_of_lower {word other : List Char} (capitalised : IsCapitalised word)
    (capitalised' : IsCapitalised other) (same : word.map Char.toLower = other.map Char.toLower) : word = other := by
  have rest_lower {second : Char} {rest : List Char} (small : isSmall second = true)
      (others : ∀ c ∈ rest, isSmallOrDigit c = true) : (second :: rest).map Char.toLower = second :: rest := by
    refine (List.map_congr_left fun c inside => ?_).trans (List.map_id _)
    rcases List.mem_cons.1 inside with rfl | later
    · exact toLower_small (isSmallOrDigit_of_isSmall small)
    · exact toLower_small (others c later)
  obtain ⟨first, second, rest, rfl, capital, small, others⟩ := capitalised
  obtain ⟨first', second', rest', rfl, capital', small', others'⟩ := capitalised'
  rw [List.map_cons, rest_lower small others, List.map_cons, rest_lower small' others'] at same
  obtain ⟨heads, tails⟩ := List.cons.inj same
  have numbers := congrArg Char.toNat heads
  rw [toNat_toLower capital, toNat_toLower capital'] at numbers
  rw [tails, Char.toNat_inj.1 (Nat.add_right_cancel numbers)]

/-- Capitalised words can stand side by side. -/
theorem AreWords.of_capitalised {words : List (List Char)} (capitalised : ∀ word ∈ words, IsCapitalised word) :
    AreWords words := by
  refine ⟨fun word among => .inl (capitalised word among), List.Pairwise.isChain ?_⟩
  exact List.pairwise_of_forall_mem_list fun word among next _ both => (capitalised word among).not_isAcronym both.1

/-- Capitalised words are known from their lower cases. -/
theorem eq_of_lower_words : ∀ {words others : List (List Char)}, (∀ word ∈ words, IsCapitalised word) →
    (∀ word ∈ others, IsCapitalised word) →
      words.map (List.map Char.toLower) = others.map (List.map Char.toLower) → words = others
  | [], [], _, _, _ => rfl
  | [], _ :: _, _, _, same => by simp at same
  | _ :: _, [], _, _, same => by simp at same
  | word :: words, other :: others, each, each', same => by
    obtain ⟨first, further⟩ := List.cons.inj same
    rw [(each word List.mem_cons_self).eq_of_lower (each' other List.mem_cons_self) first,
      eq_of_lower_words (fun w among => each w (List.mem_cons_of_mem word among))
        (fun w among => each' w (List.mem_cons_of_mem other among)) further]

theorem IsWord.lower_noUnderscore {word : List Char} (isWord : IsWord word) : '_' ∉ word.map Char.toLower := by
  intro inside
  obtain ⟨c, among, lower⟩ := List.mem_map.1 inside
  have number : c.toLower.toNat = 95 := by rw [lower]; rfl
  rcases isWord.chars c among with capital | small
  · rw [toNat_toLower capital] at number
    rw [isCapital_iff] at capital
    omega
  · rw [toLower_small small] at number
    rw [isSmallOrDigit_iff] at small
    omega

/-- Class names made of capitalised words have different file names. -/
theorem moduleFileName_injective {name other : String} (capitalised : IsCapitalisedText name)
    (capitalised' : IsCapitalisedText other) (same : moduleFileName name = moduleFileName other) : name = other := by
  have pieces {words : List (List Char)} (nonempty : words ≠ []) (each : ∀ word ∈ words, IsCapitalised word) :
      (List.intercalate ['_'] (words.map (List.map Char.toLower))).splitOn '_' = words.map (List.map Char.toLower) := by
    refine List.splitOn_intercalate '_' (fun piece isPiece => ?_) (by simpa using nonempty)
    obtain ⟨word, among, rfl⟩ := List.mem_map.1 isPiece
    exact IsWord.lower_noUnderscore (.inl (each word among))
  obtain ⟨words, nonempty, each, rfl⟩ := capitalised
  obtain ⟨words', nonempty', each', rfl⟩ := capitalised'
  rw [moduleFileName_flatten (.of_capitalised each), moduleFileName_flatten (.of_capitalised each')] at same
  have chars := congrArg String.toList same
  rw [String.toList_append, String.toList_append, List.append_cancel_right_eq, String.toList_ofList,
    String.toList_ofList] at chars
  have lowers := congrArg (List.splitOn '_') chars
  rw [pieces nonempty each, pieces nonempty' each'] at lowers
  rw [eq_of_lower_words each each' lowers]

end EachSubject.Wrapper

namespace EachSubject.CommandLine

open Wrapper

/-! ## Places -/

/-- A part that leads downward leads to places of its own. -/
theorem resolve_child {here : Place} {dir : Path} {part : String} (downward : part ≠ "..") :
    here.resolve (dir.child part) = here.resolve dir ++ [part] := by
  simp [Place.resolve, Path.child, Path.isAbsolute, List.foldl_append, Place.follow, downward]

theorem moduleFileName_downward (name : String) : moduleFileName name ≠ ".." := by
  intro same
  have ending := congrArg (fun text : String => text.toList.getLast?) same
  simp [moduleFileName] at ending

namespace Surroundings

variable {s : Surroundings} {dir : Path}

/-- Wrappers are written to the same file only if their file names are the same. -/
theorem moduleFileName_of_fileOf {source other : WrapperSource} (same : s.fileOf dir source = s.fileOf dir other) :
    moduleFileName source.className = moduleFileName other.className := by
  rw [fileOf, fileOf, resolve_child (moduleFileName_downward _), resolve_child (moduleFileName_downward _)] at same
  simpa using same

/-- Once wrappers were written, the file of each of them holds the last one of its name. -/
theorem written_kept {sources : List WrapperSource} (files : Place → Option ByteArray)
    (capitalised : ∀ source ∈ sources, IsCapitalisedText source.className) :
    ∀ source ∈ sources, ∃ other ∈ sources, other.className = source.className ∧
      sources.foldl (s.withModule dir) files (s.fileOf dir source) = some other.code.toUTF8 := by
  induction sources using List.reverseRecOn with
  | nil => simp
  | append_singleton sources last ih =>
    intro source among
    rw [List.foldl_append, List.foldl_cons, List.foldl_nil, withModule]
    by_cases same : s.fileOf dir source = s.fileOf dir last
    · have isLast := moduleFileName_injective (capitalised source among) (capitalised last (by simp))
        (moduleFileName_of_fileOf same)
      exact ⟨last, by simp, isLast.symm, by rw [same, Function.update_self]⟩
    · have earlier : source ∈ sources := by
        rcases List.mem_append.1 among with earlier | isLast
        · exact earlier
        · obtain rfl : source = last := by simpa using isLast
          exact absurd rfl same
      obtain ⟨other, among', named, kept⟩ := ih (fun w isOne => capitalised w (List.mem_append_left _ isOne)) source
        earlier
      exact ⟨other, List.mem_append_left _ among', named, by rw [Function.update_of_ne same, kept]⟩

/-- What a run delivers: the beginning of what there is to deliver, and all of that unless it ends with a fault. -/
theorem generate_begins {outputDir : Option Path} {subjects : List String} {before after : Trace} {ending : Ending}
    (ran : (s.generate outputDir subjects).run before = (ending, after)) :
    ∃ sources, sources <+: s.leading subjects ∧ ((∀ fault, ending ≠ .fault fault) → sources = s.leading subjects) ∧
      s.Delivers outputDir sources before after := by
  rw [generate] at ran
  cases subjects with
  | nil =>
    cases ran
    exact ⟨[], List.nil_prefix, fun _ => rfl, delivers_nothing rfl rfl⟩
  | cons path rest =>
    rw [if_neg (by simp)] at ran
    by_cases caught : ∀ fault, ending ≠ .fault fault
    · obtain ⟨_, delivers⟩ := deliverAll_delivers ran caught
      exact ⟨_, List.prefix_rfl, fun _ => rfl, delivers⟩
    · obtain ⟨sources, begins, delivers⟩ := deliverAll_begins ran
      exact ⟨sources, begins, fun settled => absurd settled caught, delivers⟩

end Surroundings

/-! ## File names -/

/-- A class name that is written in words has the file name that shows these words in lower case, with underscores
    between them. Names of capitalised words have file names of their own, so that a run which generates such wrappers
    writes over none of them but by one of the same name. -/
theorem moduleFileName_words :
    (∀ words : List String, (∀ word ∈ words, IsWord word.toList) →
      words.IsChain (fun word next => StandApart word.toList next.toList) →
        moduleFileName (String.join words) = "_".intercalate (words.map String.toLower) ++ ".py") ∧
    (∀ name other, IsCapitalisedText name → IsCapitalisedText other → moduleFileName name = moduleFileName other →
      name = other) ∧
    ∀ (s : Surroundings) (dir : Path) (subjects : List String) (before after : Trace) (ending : Ending),
      (s.generate (some dir) subjects).run before = (ending, after) →
      (∀ source ∈ s.leading subjects, IsCapitalisedText source.className) →
      ∃ sources, sources <+: s.leading subjects ∧ ((∀ fault, ending ≠ .fault fault) → sources = s.leading subjects) ∧
        s.Delivers (some dir) sources before after ∧
        ∀ source ∈ sources, ∃ other ∈ sources, other.className = source.className ∧
          after.disk.fileAt (s.fileOf dir source) = some other.code.toUTF8 := by
  refine ⟨fun words each apart => ?_, fun name other => moduleFileName_injective, ?_⟩
  · have areWords : AreWords (words.map String.toList) := by
      refine ⟨fun word among => ?_, ?_⟩
      · obtain ⟨text, isOne, rfl⟩ := List.mem_map.1 among
        exact each text isOne
      · rwa [List.isChain_map]
    have joined : String.join words = String.ofList (words.map String.toList).flatten := by
      rw [← String.toList_inj, String.toList_join, String.toList_ofList, List.flatMap]
    rw [joined, moduleFileName_flatten areWords, ← String.toList_inj]
    simp only [String.toList_append, String.toList_ofList, String.toList_intercalate, List.map_map]
    congr 2
    exact List.map_congr_left fun word _ => (String.toList_map).symm
  · intro s dir subjects before after ending ran capitalised
    obtain ⟨sources, begins, whole, delivers⟩ := Surroundings.generate_begins ran
    refine ⟨sources, begins, whole, delivers, fun source among => ?_⟩
    rw [delivers.2]
    exact Surroundings.written_kept before.disk.fileAt (fun w isOne => capitalised w (begins.subset isOne)) source among

/-! ### An example -/

/-- A disk with the directory of the example. -/
def shopDisk : Disk where
  entries := [(["shop"], .directory)]

private theorem shop_leading : shop.leading ["shop:PriceSubject"] = [shopSource] := by
  have built : shop.wrapper? "shop:PriceSubject" = some shopSource := by
    rw [Surroundings.wrapper?, shop_subject]
    simp only [shop_build]
    rfl
  rw [Surroundings.leading_cons_some built]
  rfl

private theorem shopSource_capitalised : IsCapitalisedText shopSource.className := by
  refine ⟨["Price".toList, "Subject".toList, "Iterating".toList, "Wrapper".toList], by decide, ?_, by decide +kernel⟩
  simp only [List.forall_mem_cons, List.not_mem_nil, false_implies, implies_true, and_true]
  refine ⟨⟨_, _, _, rfl, ?_⟩, ⟨_, _, _, rfl, ?_⟩, ⟨_, _, _, rfl, ?_⟩, ⟨_, _, _, rfl, ?_⟩⟩ <;> decide

private theorem shop_writes : ((shop.generate (some ⟨"", ["out"]⟩) ["shop:PriceSubject"]).run { disk := shopDisk }).1 =
    .exit 0 := by
  have written : (shop.writeInto shopDisk ⟨"", ["out"]⟩ shopSource).toOption.isSome = true := by decide +kernel
  cases wrote : shop.writeInto shopDisk ⟨"", ["out"]⟩ shopSource with
  | error fault =>
    rw [wrote] at written
    cases written
  | ok disk =>
    have delivered (t : Trace) (same : t.disk = shopDisk) :
        ((shop.deliver (some ⟨"", ["out"]⟩) shopSource).run t).1 = none := by
      have got : (get : Work Trace).run t = (t, t) := rfl
      rw [Surroundings.deliver]
      dsimp only
      rw [Surroundings.run_bind, got]
      dsimp only
      rw [same, wrote]
      rfl
    rw [Surroundings.generate, if_neg (by decide), Surroundings.deliverAll, shop_subject]
    dsimp only
    rw [Surroundings.run_bind, shop_build]
    dsimp only
    rw [Surroundings.run_bind, delivered _ (by rfl)]
    rfl

theorem shop_named : moduleFileName "HTTPServer2AFooXML" = "http_server2_a_foo_xml.py" ∧
    moduleFileName "PriceSubjectIteratingWrapper" ≠ moduleFileName "Price2" ∧
    ((shop.generate (some ⟨"", ["out"]⟩) ["shop:PriceSubject"]).run { disk := shopDisk }).2.disk.fileAt
      ["shop", "out", "price_subject_iterating_wrapper.py"] = some shopSource.code.toUTF8 := by
  have http : IsAcronym "HTTP".toList := ⟨by decide, by decide⟩
  have server : IsCapitalised "Server2".toList := ⟨_, _, _, rfl, by decide⟩
  have single : IsAcronym "A".toList := ⟨by decide, by decide⟩
  have foo : IsCapitalised "Foo".toList := ⟨_, _, _, rfl, by decide⟩
  have xml : IsAcronym "XML".toList := ⟨by decide, by decide⟩
  obtain ⟨named, injective, kept⟩ := moduleFileName_words
  refine ⟨?_, fun same => ?_, ?_⟩
  · refine (named ["HTTP", "Server2", "A", "Foo", "XML"] ?_ ?_).trans (by decide +kernel)
    · simp only [List.forall_mem_cons, List.not_mem_nil, false_implies, implies_true, and_true]
      exact ⟨.inr http, .inl server, .inr single, .inl foo, .inr xml⟩
    · simp only [List.isChain_cons_cons, List.isChain_singleton, and_true]
      exact ⟨fun both => server.not_isAcronym both.2, fun both => server.not_isAcronym both.1,
        fun both => foo.not_isAcronym both.2, fun both => foo.not_isAcronym both.1⟩
  · have isPrice : IsCapitalisedText "Price2" :=
      ⟨["Price2".toList], by decide, by simpa using ⟨_, _, _, rfl, by decide⟩, by decide⟩
    exact absurd (injective _ _ shopSource_capitalised isPrice same) (by decide)
  · have capitalised : ∀ source ∈ shop.leading ["shop:PriceSubject"], IsCapitalisedText source.className := by
      simpa [shop_leading] using shopSource_capitalised
    obtain ⟨sources, _, whole, _, written⟩ := kept shop ⟨"", ["out"]⟩ ["shop:PriceSubject"] _ _ _
      (Prod.eta ((shop.generate (some ⟨"", ["out"]⟩) ["shop:PriceSubject"]).run { disk := shopDisk })).symm capitalised
    have all := whole fun fault isFault => by cases shop_writes.symm.trans isFault
    rw [shop_leading] at all
    obtain ⟨other, isOne, _, content⟩ := written shopSource (by simp [all])
    obtain rfl : other = shopSource := by simpa [all] using isOne
    have place : shop.fileOf ⟨"", ["out"]⟩ shopSource = ["shop", "out", "price_subject_iterating_wrapper.py"] := by
      decide +kernel
    exact place ▸ content

end EachSubject.CommandLine
