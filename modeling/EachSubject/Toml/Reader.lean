import EachSubject.Toml.Scalar

/-!
# Reading TOML documents

A document is read statement by statement. Marks remember which tables were declared and which values
were written in place: a table can be declared only once, and nothing can be added to a value that was
written in place. A new item of an array of tables starts with no marks inside.
-/

namespace EachSubject.Toml

/-! ## Marks -/

/-- What is known about the value at a path. -/
inductive Mark where
  /-- A table that was declared, by a header or by a dotted key. -/
  | declared (path : List String)
  /-- A value that was written in place; nothing inside it can change. -/
  | fixed (path : List String)
deriving DecidableEq, Repr

/-- The marks made so far. -/
abbrev Marks := List Mark

namespace Marks

/-- The table at the path was declared. -/
def isDeclared (marks : Marks) (path : List String) : Bool := marks.contains (.declared path)

/-- The path leads to a value that was written in place, or into one. -/
def isFixed (marks : Marks) (path : List String) : Bool :=
  !path.isEmpty && marks.any fun
    | .fixed above => above.isPrefixOf path
    | .declared _ => false

/-- The marks that stay when a new item of an array of tables starts. -/
def forget (marks : Marks) (path : List String) : Marks :=
  marks.filter fun
    | .declared inside => !path.isPrefixOf inside
    | .fixed inside => !path.isPrefixOf inside

end Marks

/-! ## Values -/

/-- What follows spaces, line ends and comments inside an array; `fuel` bounds their number. -/
def skipBlank : Nat → List Char → Except Fault (List Char)
  | 0, text => .ok text
  | fuel + 1, text => do
    match text.dropWhile fun c => isSpace c || c == '\n' with
    | '#' :: rest => skipBlank fuel (← skipComment ('#' :: rest))
    | rest => return rest

/-- What follows spaces, line ends and comments. -/
def skipBlanks (text : List Char) : Except Fault (List Char) := skipBlank (text.length + 1) text

/-- Reads a value at the front of a text, and gives what remains. -/
abbrev ValueReader := List Char → Except Fault (Value × List Char)

/-- Reads the items of an array up to its end, given the reader of an item. -/
def arrayItems (item : ValueReader) : Nat → List Char → Except Fault (List Value × List Char)
  | 0, _ => .error .malformed
  | fuel + 1, text => do
    match ← skipBlanks text with
    | ']' :: rest => return ([], rest)
    | text =>
      let (first, rest) ← item text
      match ← skipBlanks rest with
      | ']' :: rest => return ([first], rest)
      | ',' :: rest =>
        let (others, rest) ← arrayItems item fuel rest
        return (first :: others, rest)
      | _ => .error .malformed

/-- Reads a key, an equals sign, and a value. -/
def entry (item : ValueReader) (text : List Char) :
    Except Fault ((List String × Value) × List Char) := do
  let (path, rest) ← key text
  match rest with
  | '=' :: rest =>
    let (value, rest) ← item (skipSpaces rest)
    return ((path, value), rest)
  | _ => .error .malformed

/-- Is an array or a table. -/
def Value.holdsValues : Value → Bool
  | .array _ => true
  | .table _ => true
  | _ => false

/-- The path to a key without its last part, and the last part. -/
def splitKey (path : List String) : List String × String := (path.dropLast, path.getLast?.getD "")

/-- Reads the entries of an inline table up to its end, given the reader of a value. -/
def inlineEntries (item : ValueReader) :
    Nat → Marks → Table → List Char → Except Fault (Table × List Char)
  | 0, _, _, _ => .error .malformed
  | fuel + 1, marks, table, text => do
    let ((path, value), rest) ← entry item text
    if marks.isFixed path then .error .malformed
    let (above, last) := splitKey path
    match addAt false above last value table with
    | none => .error .malformed
    | some table =>
      match skipSpaces rest with
      | '}' :: rest => return (table, rest)
      | ',' :: rest =>
        let marks := if value.holdsValues then .fixed path :: marks else marks
        inlineEntries item fuel marks table (skipSpaces rest)
      | _ => .error .malformed

/-- Reads a value; arrays and inline tables nest at most so deeply. -/
def value : Nat → ValueReader
  | 0, _ => .error .tooDeep
  | depth + 1, text =>
    match text with
    | '"' :: _ => (quotedText text).map fun (t, rest) => (.text t, rest)
    | '\'' :: _ => (quotedText text).map fun (t, rest) => (.text t, rest)
    | 't' :: 'r' :: 'u' :: 'e' :: rest => .ok (.boolean true, rest)
    | 'f' :: 'a' :: 'l' :: 's' :: 'e' :: rest => .ok (.boolean false, rest)
    | '[' :: rest => do
      let (items, rest) ← arrayItems (value depth) (rest.length + 1) rest
      return (.array items, rest)
    | '{' :: rest =>
      match skipSpaces rest with
      | '}' :: rest => .ok (.table [], rest)
      | rest => do
        let (entries, rest) ← inlineEntries (value depth) (rest.length + 1) [] [] rest
        return (.table entries, rest)
    | text => plainValue text

/-- How deeply arrays and inline tables may be nested. -/
def depthLimit : Nat := 450

/-! ## Statements -/

/-- A document on the way: the tables so far, the marks, the marks that hold from the next header on,
    and the path of the last header. -/
structure Draft where
  root : Table := []
  marks : Marks := []
  pending : Marks := []
  header : List String := []

namespace Draft

/-- The pending marks hold. -/
def settle (d : Draft) : Draft := { d with marks := d.pending ++ d.marks, pending := [] }

/-- The outcome of a change of the tables. -/
def withRoot (d : Draft) : Option Table → Except Fault Draft
  | some root => .ok { d with root }
  | none => .error .malformed

/-- The paths of the tables that a dotted key passes through. -/
def passed (header path : List String) : List (List String) :=
  (List.range (path.length - 1)).map fun i => header ++ path.take (i + 1)

/-- Adds an entry below the last header. -/
def addEntry (d : Draft) (path : List String) (value : Value) : Except Fault Draft := do
  let (above, last) := splitKey path
  let parent := d.header ++ above
  let through := passed d.header path
  if through.any d.marks.isDeclared || d.marks.isFixed parent then .error .malformed
  let d := { d with pending := through.map Mark.declared ++ d.pending }
  let d ← d.withRoot (addAt true parent last value d.root)
  return if value.holdsValues then { d with marks := .fixed (d.header ++ path) :: d.marks } else d

/-- Starts a table. -/
def startTable (d : Draft) (path : List String) : Except Fault Draft := do
  if d.marks.isDeclared path || d.marks.isFixed path then .error .malformed
  let d ← d.withRoot (openAt path d.root)
  return { d with marks := .declared path :: d.marks, header := path }

/-- Starts a new item of an array of tables. -/
def startItem (d : Draft) (path : List String) : Except Fault Draft := do
  if d.marks.isFixed path then .error .malformed
  let (above, last) := splitKey path
  let d ← d.withRoot (appendAt above last d.root)
  return { d with marks := .declared path :: d.marks.forget path, header := path }

/-- Reads a statement that starts at the first character, up to what follows it on its line. -/
def statement (d : Draft) (text : List Char) : Except Fault (Draft × List Char) := do
  match text with
  | '[' :: '[' :: rest =>
    let (path, rest) ← key (skipSpaces rest)
    let d ← d.settle.startItem path
    match rest with
    | ']' :: ']' :: rest => return (d, rest)
    | _ => .error .malformed
  | '[' :: rest =>
    let (path, rest) ← key (skipSpaces rest)
    let d ← d.settle.startTable path
    match rest with
    | ']' :: rest => return (d, rest)
    | _ => .error .malformed
  | '#' :: _ => return (d, text)
  | c :: _ =>
    if startsKey c then
      let ((path, value), rest) ← entry (value depthLimit) text
      return (← d.addEntry path value, rest)
    else .error .malformed
  | [] => return (d, [])

/-- Reads all statements; each takes a character at least, and `fuel` bounds their number. -/
def statements : Nat → Draft → List Char → Except Fault Draft
  | 0, d, _ => .ok d
  | fuel + 1, d, text => do
    match skipSpaces text with
    | [] => return d
    | '\n' :: rest => statements fuel d rest
    | text =>
      let (d, rest) ← d.statement text
      match ← skipComment (skipSpaces rest) with
      | [] => return d
      | '\n' :: rest => statements fuel d rest
      | _ => .error .malformed

end Draft

/-- The text with each pair of carriage return and line feed as a line feed. -/
def plainLineEnds : List Char → List Char
  | '\r' :: '\n' :: rest => '\n' :: plainLineEnds rest
  | c :: rest => c :: plainLineEnds rest
  | [] => []

/-- Reads a document. -/
def read (text : String) : Except Fault Table :=
  let text := plainLineEnds text.toList
  (Draft.statements (text.length + 1) {} text).map (·.root)

end EachSubject.Toml
