/-!
# Markup for the terminal

Text shown on the terminal may contain tags in square brackets. `escape` makes a text show as itself:
what looks like a tag gets a backslash in front, and the backslashes already there are doubled.
-/

namespace EachSubject.Text

/-- A character that may follow the opening bracket of a tag. -/
def startsTag (c : Char) : Bool :=
  ('a' ≤ c && c ≤ 'z') || c == '#' || c == '/' || c == '@'

def isBracket (c : Char) : Bool := c == '[' || c == ']'

/-- A tag stands at the head of a text: an opening bracket, a character that starts a tag, and a closing
    bracket before any other opening one. -/
def hasTag : List Char → Bool
  | '[' :: c :: rest => startsTag c && rest.find? isBracket == some ']'
  | _ => false

/-- Escapes every tag; `slashes` counts the backslashes read just before. -/
def escapeTags (slashes : Nat) : List Char → List Char
  | [] => List.replicate slashes '\\'
  | c :: rest =>
    if c = '\\' then escapeTags (slashes + 1) rest
    else if hasTag (c :: rest) then
      List.replicate (2 * slashes + 1) '\\' ++ c :: escapeTags 0 rest
    else List.replicate slashes '\\' ++ c :: escapeTags 0 rest

/-- A lone backslash at the end would escape whatever is printed next, so it is doubled. -/
def closeSlash (text : List Char) : List Char :=
  match text.reverse with
  | '\\' :: '\\' :: _ => text
  | '\\' :: _ => text ++ ['\\']
  | _ => text

/-- The markup that shows as the given text. -/
def escape (text : String) : String :=
  String.ofList (closeSlash (escapeTags 0 text.toList))

example : escape "[red]x[/] [1] \\[b]" = "\\[red]x\\[/] [1] \\\\\\[b]" := by decide +kernel
example : escape "a\\" = "a\\\\" := by decide +kernel

end EachSubject.Text
