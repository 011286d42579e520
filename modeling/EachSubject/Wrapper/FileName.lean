import EachSubject.Text.Lowercase

/-!
# File names of wrapper modules

The file of a class is its name in lower case, with an underscore where a word begins: before a
capital that follows a small letter or digit, and before the last capital of a run when a small
letter comes next.
-/

namespace EachSubject.Wrapper

def isCapital (c : Char) : Bool := 'A' ≤ c && c ≤ 'Z'

def isSmall (c : Char) : Bool := 'a' ≤ c && c ≤ 'z'

def isSmallOrDigit (c : Char) : Bool := isSmall c || ('0' ≤ c && c ≤ '9')

/-- A word begins between the character before and the rest of the text. -/
def beginsWord (before : Char) : List Char → Bool
  | [] => false
  | c :: rest =>
    isCapital c && (isSmallOrDigit before || (isCapital before && (rest.head?.map isSmall).getD false))

/-- Puts an underscore before each word but the first, after the character that came before. -/
def separateAfter (before : Char) : List Char → List Char
  | [] => []
  | c :: rest =>
    if beginsWord before (c :: rest) then '_' :: c :: separateAfter c rest
    else c :: separateAfter c rest

/-- Puts an underscore before each word but the first. -/
def separateWords : List Char → List Char
  | [] => []
  | c :: rest => c :: separateAfter c rest

/-- The file name of the module of a class. -/
def moduleFileName (className : String) : String :=
  Text.lowercase (String.ofList (separateWords className.toList)) ++ ".py"

end EachSubject.Wrapper
