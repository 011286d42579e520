import EachSubject.Text.CharacterName.Aliases
import EachSubject.Text.CharacterName.BlockFive
import EachSubject.Text.CharacterName.BlockFour
import EachSubject.Text.CharacterName.BlockOne
import EachSubject.Text.CharacterName.BlockSeven
import EachSubject.Text.CharacterName.BlockSix
import EachSubject.Text.CharacterName.BlockThree
import EachSubject.Text.CharacterName.BlockTwo
import EachSubject.Text.Hex

/-!
# Names of characters

Every character has at most one name of its own and possibly further ones. Names are found whatever
the case of their letters; the names that are made from a code point or from the letters of a syllable
are in capitals only.

The table lists names in the order of code points. An entry that starts with a plus sign gives the code
point of the next name in hexadecimal; any other entry is a name, written as the number of characters
at its beginning that it shares with the name before it, in two digits, and the rest of it.
-/

namespace EachSubject.Text.CharacterName

/-- The entries of a table, which stand between semicolons or line ends. -/
def entries (table : String) : List (List Char) :=
  let step (c : Char) : List (List Char) → List (List Char)
    | [] => []
    | entry :: rest => if c = ';' || c = '\n' then [] :: entry :: rest else (c :: entry) :: rest
  table.toList.foldr step [[]]

/-- The value of decimal digits. -/
def decimal (digits : List Char) : Nat :=
  digits.foldl (fun value c => 10 * value + (c.toNat - 48)) 0

/-- Looks for a name in a list of entries, given the next code point and the name before. -/
def findIn (wanted : List Char) (point : Nat) (before : List Char) : List (List Char) → Option Nat
  | [] => none
  | ('+' :: digits) :: rest => findIn wanted ((hexNumber? digits).getD 0) before rest
  | entry :: rest =>
    let name := before.take (decimal (entry.take 2)) ++ entry.drop 2
    if name = wanted then some point else findIn wanted (point + 1) name rest

/-- All tables of names. -/
def tables : List String :=
  [blockOne, blockTwo, blockThree, blockFour, blockFive, blockSix, blockSeven]

/-- The code point that has such a name in the tables. -/
def ofTables? (wanted : List Char) : Option Nat :=
  tables.findSome? fun table => findIn wanted 0 [] (entries table)

/-- The code point that has such a further name. -/
def ofAlias? (wanted : List Char) : Option Nat :=
  (entries aliases).findSome? fun entry =>
    let point := entry.takeWhile (· != ' ')
    if (entry.drop (point.length + 1)) = wanted then hexNumber? point else none

/-! ## Names that are made by a rule -/

/-- The ranges of unified ideographs. -/
def ideographs : List (Nat × Nat) :=
  [(0x3400, 0x4dbf), (0x4e00, 0x9fff), (0x20000, 0x2a6df), (0x2a700, 0x2b738), (0x2b740, 0x2b81d),
   (0x2b820, 0x2cea1), (0x2ceb0, 0x2ebe0), (0x30000, 0x3134a)]

/-- What follows a beginning. -/
def after? (beginning : String) (name : List Char) : Option (List Char) :=
  if beginning.toList.isPrefixOf name then some (name.drop beginning.length) else none

/-- An ideograph is named by its code point, in four or five capital digits. -/
def ideograph? (name : List Char) : Option Nat := do
  let digits ← after? "CJK UNIFIED IDEOGRAPH-" name
  if digits.any Char.isLower || (digits.length != 4 && digits.length != 5) then none
  else
    let point ← hexNumber? digits
    if ideographs.any fun range => range.1 ≤ point && point ≤ range.2 then some point else none

/-- The letters that a syllable can start with. -/
def leadingLetters : List String :=
  ["G", "GG", "N", "D", "DD", "R", "M", "B", "BB", "S", "SS", "", "J", "JJ", "C", "K", "T", "P", "H"]

def vowels : List String :=
  ["A", "AE", "YA", "YAE", "EO", "E", "YEO", "YE", "O", "WA", "WAE", "OE", "YO", "U", "WEO", "WE",
   "WI", "YU", "EU", "YI", "I"]

/-- The letters that a syllable can end with. -/
def trailingLetters : List String :=
  ["", "G", "GG", "GS", "N", "NJ", "NH", "D", "L", "LG", "LM", "LB", "LS", "LT", "LP", "LH", "M", "B",
   "BS", "S", "SS", "NG", "J", "C", "K", "T", "P", "H"]

/-- The place of the longest of the letters with which a text starts, and what follows them. -/
def longest? (letters : List String) (text : List Char) : Option (Nat × List Char) :=
  let fitting := letters.zipIdx.filter fun (letter, _) => letter.toList.isPrefixOf text
  let best := fitting.foldl (fun best (letter, place) =>
    match best with
    | some (other, _) => if other.length < letter.length then some (letter, place) else best
    | none => some (letter, place)) (none : Option (String × Nat))
  best.map fun (letter, place) => (place, text.drop letter.length)

/-- A syllable is named by its letters. -/
def syllable? (name : List Char) : Option Nat := do
  let letters ← after? "HANGUL SYLLABLE " name
  let (leading, rest) ← longest? leadingLetters letters
  let (vowel, rest) ← longest? vowels rest
  let (trailing, rest) ← longest? trailingLetters rest
  if rest.isEmpty then some (0xac00 + (leading * 21 + vowel) * 28 + trailing) else none

/-- The code point of a name. -/
def find? (name : List Char) : Option Nat :=
  let capitals := name.map Char.toUpper
  (syllable? name).or ((ideograph? name).or ((ofTables? capitals).or (ofAlias? capitals)))

end EachSubject.Text.CharacterName
