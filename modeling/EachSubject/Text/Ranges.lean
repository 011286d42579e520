/-!
# Ranges of code points

A character class is a table of inclusive ranges of code points. `Ranges.holds` decides membership;
the tables themselves stand beside the operations that read them. The first of them is here: the white
space that surrounds the items of a list or a number and is removed before they are read.
-/

namespace EachSubject.Text

/-- Inclusive ranges of code points. -/
abbrev Ranges := List (Nat × Nat)

/-- Some range of the table contains the code point. -/
def Ranges.holds (table : Ranges) (point : Nat) : Bool :=
  table.any fun range => range.1 ≤ point && point ≤ range.2

theorem Ranges.holds_iff {table : Ranges} {point : Nat} :
    table.holds point = true ↔ ∃ range ∈ table, range.1 ≤ point ∧ point ≤ range.2 := by
  simp [Ranges.holds]

@[simp] theorem Ranges.holds_nil (point : Nat) : Ranges.holds [] point = false := rfl

theorem Ranges.holds_append (left right : Ranges) (point : Nat) :
    Ranges.holds (left ++ right) point = (left.holds point || right.holds point) := by
  simp [Ranges.holds, List.any_append]

/-! ## Blank characters -/

/-- Every white space character: the ASCII ones, the four information separators, and the spaces
    and line separators beyond ASCII. -/
def blanks : Ranges :=
  [
   (0x9, 0xd), (0x1c, 0x20), (0x85, 0x85), (0xa0, 0xa0), (0x1680, 0x1680), (0x2000, 0x200a),
   (0x2028, 0x2029), (0x202f, 0x202f), (0x205f, 0x205f), (0x3000, 0x3000)]

def isBlank (c : Char) : Bool := blanks.holds c.toNat

/-- The text without the blanks at either end. -/
def trimBlanks (text : List Char) : List Char :=
  ((text.dropWhile isBlank).reverse.dropWhile isBlank).reverse

/-- The text without the blanks at either end. -/
def strip (text : String) : String := String.ofList (trimBlanks text.toList)

/-- The pieces of a text between the separators, at least one. -/
def splitAtChar (separator : Char) : List Char → List (List Char)
  | [] => [[]]
  | c :: rest =>
    if c = separator then [] :: splitAtChar separator rest
    else match splitAtChar separator rest with
      | [] => [[c]]
      | piece :: pieces => (c :: piece) :: pieces

@[simp] theorem isBlank_space : isBlank ' ' = true := by decide

end EachSubject.Text
