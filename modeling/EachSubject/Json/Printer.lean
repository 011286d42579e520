import EachSubject.Json.Basic
import EachSubject.Double.Decimal
import EachSubject.Text.Hex

/-!
# Writing JSON

The compact form of a document: no white space, members in order. Strings escape the double quote,
the backslash and the control characters below U+0020, and nothing else.
-/

namespace EachSubject.Json

/-- One character of a string. -/
def escapedChar (c : Char) : List Char :=
  if c = '"' then ['\\', '"']
  else if c = '\\' then ['\\', '\\']
  else if c = '\n' then ['\\', 'n']
  else if c = '\r' then ['\\', 'r']
  else if c = '\t' then ['\\', 't']
  else if c = '\x08' then ['\\', 'b']
  else if c = '\x0c' then ['\\', 'f']
  else if c.toNat < 32 then '\\' :: 'u' :: Text.paddedHex 4 c.toNat
  else [c]

/-- A string between double quotes. -/
def renderText (text : String) : List Char := '"' :: text.toList.flatMap escapedChar ++ ['"']

mutual

/-- The characters of the compact form. -/
def renderChars : Json → List Char
  | .null => "null".toList
  | .bool true => "true".toList
  | .bool false => "false".toList
  | .int value => (toString value).toList
  | .float value => value.shortest.toList
  | .string value => renderText value
  | .list items => '[' :: renderItems items
  | .object members => '{' :: renderMembers members

/-- The items of a list, separated by commas, and its closing bracket. -/
def renderItems : List Json → List Char
  | [] => [']']
  | [item] => renderChars item ++ [']']
  | item :: rest => renderChars item ++ ',' :: renderItems rest

/-- The members of an object, separated by commas, and its closing brace. -/
def renderMembers : List (String × Json) → List Char
  | [] => ['}']
  | [(name, value)] => renderText name ++ ':' :: renderChars value ++ ['}']
  | (name, value) :: rest => renderText name ++ ':' :: renderChars value ++ ',' :: renderMembers rest

end

/-- The compact form of a document. -/
def render (document : Json) : String := String.ofList (renderChars document)

end EachSubject.Json
