import EachSubject.Text.CharacterName
import EachSubject.Text.Normalization.Classes
import EachSubject.Text.Normalization.Compositions
import EachSubject.Text.Normalization.Decompositions

/-!
# Normalized text

Several texts may stand for one name. The normalized text replaces every character by what it is a
variant or a composition of, puts marks in the order of their classes, and composes again what can be
composed.
-/

namespace EachSubject.Text.Normalization

/-! ## Tables -/

/-- The number in hexadecimal digits. -/
def point (digits : List Char) : Nat := (hexNumber? digits).getD 0

/-- The parts of an entry before and after a sign. -/
def parts (sign : Char) (entry : List Char) : List Char × List Char :=
  (entry.takeWhile (· != sign), (entry.dropWhile (· != sign)).drop 1)

/-- What the characters are replaced by. -/
def replacements : List (Nat × List Nat) :=
  (CharacterName.entries decompositions).map fun entry =>
    let (source, target) := parts '=' entry
    (point source, (String.ofList target).splitOn " " |>.map fun digits => point digits.toList)

/-- The pairs that are composed. -/
def compositionPairs : List ((Nat × Nat) × Nat) :=
  (CharacterName.entries compositions).map fun entry =>
    let (pair, composed) := parts '=' entry
    let (first, second) := parts ' ' pair
    ((point first, point second), point composed)

/-- The ranges of characters with a class other than zero. -/
def classRanges : List ((Nat × Nat) × Nat) :=
  (CharacterName.entries classes).map fun entry =>
    let (range, number) := parts '=' entry
    let (first, last) := parts '-' range
    ((point first, point last), point number)

/-- The class of a character. -/
def classOf (ranges : List ((Nat × Nat) × Nat)) (c : Nat) : Nat :=
  ((ranges.find? fun r => r.1.1 ≤ c && c ≤ r.1.2).map (·.2)).getD 0

/-! ## Syllables -/

def firstSyllable : Nat := 0xac00
def firstLeading : Nat := 0x1100
def firstVowel : Nat := 0x1161
def firstTrailing : Nat := 0x11a7

/-- The letters of a syllable. -/
def syllableLetters? (c : Nat) : Option (List Nat) :=
  if firstSyllable ≤ c && c < firstSyllable + 11172 then
    let place := c - firstSyllable
    let trailing := place % 28
    let letters := [firstLeading + place / 588, firstVowel + place % 588 / 28]
    some (if trailing = 0 then letters else letters ++ [firstTrailing + trailing])
  else none

/-- The syllable of two letters, or of a syllable and a letter. -/
def syllableOf? (a b : Nat) : Option Nat :=
  if firstLeading ≤ a && a < firstLeading + 19 && firstVowel ≤ b && b < firstVowel + 21 then
    some (firstSyllable + ((a - firstLeading) * 21 + (b - firstVowel)) * 28)
  else if firstSyllable ≤ a && a < firstSyllable + 11172 && (a - firstSyllable) % 28 = 0 &&
      firstTrailing < b && b < firstTrailing + 28 then
    some (a + (b - firstTrailing))
  else none

/-! ## The three steps -/

/-- Replaces every character by what it is made from. -/
def decompose (points : List Nat) : List Nat :=
  points.flatMap fun c =>
    match syllableLetters? c with
    | some letters => letters
    | none => (replacements.lookup c).getD [c]

/-- Puts a mark behind the marks whose class is not greater; `before` is reversed. -/
def placeMark (mark : Nat × Nat) : List (Nat × Nat) → List (Nat × Nat)
  | [] => [mark]
  | other :: rest =>
    if mark.2 != 0 && mark.2 < other.2 then other :: placeMark mark rest
    else mark :: other :: rest

/-- Puts the marks behind each character in the order of their classes. -/
def order (points : List Nat) : List (Nat × Nat) :=
  let ranges := classRanges
  (points.foldl (fun before c => placeMark (c, classOf ranges c) before) []).reverse

/-- Composes from the left. `starter` is the last character that can take marks, `kept` the marks behind
    it that stay, reversed, and `done` what is finished, reversed. -/
def composeFrom (pairs : List ((Nat × Nat) × Nat)) (done : List Nat) (starter : Option Nat)
    (kept : List (Nat × Nat)) : List (Nat × Nat) → List Nat
  | [] => (kept.map (·.1) ++ starter.toList ++ done).reverse
  | (c, number) :: rest =>
    let blocked := match kept with
      | [] => false
      | (_, last) :: _ => last == 0 || number ≤ last
    let composed := if blocked then none else starter.bind fun s =>
      (syllableOf? s c).or (pairs.lookup (s, c))
    match composed with
    | some s => composeFrom pairs done (some s) kept rest
    | none =>
      if number = 0 then
        composeFrom pairs (kept.map (·.1) ++ starter.toList ++ done) (some c) [] rest
      else composeFrom pairs done starter ((c, number) :: kept) rest

end Normalization

/-- The normalized form of a text; plain ASCII stays as it is. -/
def normalized (text : String) : String :=
  if text.toList.all (·.toNat < 128) then text
  else
    let points := Normalization.order (Normalization.decompose (text.toList.map Char.toNat))
    let composed := Normalization.composeFrom Normalization.compositionPairs [] none [] points
    String.ofList (composed.map Char.ofNat)

end EachSubject.Text
