/-!
# Templates

A template is a text with fields in braces. A field names what stands in its place, may say in which
form that is shown, and how it is laid out; the layout may have fields of its own. Two braces stand
for one.
-/

namespace EachSubject.Text.Template

/-- A part of a template. -/
inductive Part where
  | text (value : List Char)
  | field (name : List Char) (conversion : Option Char) (layout : List Char)
deriving DecidableEq, Repr

/-- The name of a field and what follows it; brackets may hold anything. -/
def splitName (inBrackets : Bool) (before : List Char) : List Char → List Char × List Char
  | [] => (before.reverse, [])
  | c :: rest =>
    if inBrackets then splitName (c != ']') (c :: before) rest
    else if c == ':' || c == '!' then (before.reverse, c :: rest)
    else splitName (c == '[') (c :: before) rest

/-- The inside of a field and what follows it, up to the brace that closes it. -/
def inside (depth : Nat) (before : List Char) : List Char → Option (List Char × List Char)
  | [] => none
  | '{' :: rest => inside (depth + 1) ('{' :: before) rest
  | '}' :: rest => if depth = 0 then some (before.reverse, rest) else inside (depth - 1) ('}' :: before) rest
  | c :: rest => inside depth (c :: before) rest

/-- The field that stands between two braces. -/
def field? (content : List Char) : Option Part :=
  let (name, rest) := splitName false [] content
  if name.contains '{' then none
  else
    match rest with
    | [] => some (.field name none [])
    | ':' :: layout => some (.field name none layout)
    | '!' :: c :: [] => some (.field name (some c) [])
    | '!' :: c :: ':' :: layout => some (.field name (some c) layout)
    | _ => none

/-- Reads a template; every step takes a character, so its length bounds the steps. -/
def partsWithin (before : List Char) : Nat → List Char → Option (List Part)
  | _, [] => some [.text before.reverse]
  | 0, _ => none
  | fuel + 1, '{' :: '{' :: rest => partsWithin ('{' :: before) fuel rest
  | fuel + 1, '}' :: '}' :: rest => partsWithin ('}' :: before) fuel rest
  | _ + 1, '}' :: _ => none
  | fuel + 1, '{' :: rest => do
    let (content, rest) ← inside 0 [] rest
    let field ← field? content
    return .text before.reverse :: field :: (← partsWithin [] fuel rest)
  | fuel + 1, c :: rest => partsWithin (c :: before) fuel rest

/-- The parts of a template; nothing if it is none. -/
def parts? (text : String) : Option (List Part) :=
  partsWithin [] (text.length + 1) text.toList

/-- A step from a value to a part of it. -/
inductive Access where
  | attribute (name : String)
  | item (key : String)
deriving DecidableEq, Repr

/-- Reads the steps behind the first name of a field. -/
def accesses : Nat → List Char → Option (List Access)
  | _, [] => some []
  | 0, _ => none
  | fuel + 1, '.' :: rest => do
    let name := rest.takeWhile fun c => c != '.' && c != '['
    if name.isEmpty then none
    return .attribute (String.ofList name) :: (← accesses fuel (rest.drop name.length))
  | fuel + 1, '[' :: rest => do
    let key := rest.takeWhile (· != ']')
    match rest.drop key.length with
    | ']' :: more =>
      if key.isEmpty then none
      return .item (String.ofList key) :: (← accesses fuel more)
    | _ => none
  | _ + 1, _ => none

/-- The first name of a field and the steps behind it. -/
def reference? (name : List Char) : Option (String × List Access) :=
  let first := name.takeWhile fun c => c != '.' && c != '['
  (accesses name.length (name.drop first.length)).map fun steps => (String.ofList first, steps)

end EachSubject.Text.Template
