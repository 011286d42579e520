import EachSubject.Execution.Argument

/-!
# Functions that texts and bytes share

Texts are sequences of characters, and bytes are sequences too. Both can be searched, cut into pieces,
joined, and filled up to a width. What differs is what counts as blank, where lines end, and what can be
searched for.
-/

namespace EachSubject.Engine

variable (e : Engine)

/-- What the items of a kind of sequence are like. -/
structure Alphabet (α : Type) where
  /-- The sequence that a value is. -/
  read : Value → Run (List α)
  /-- The sequence that is searched for. -/
  part : Value → Run (List α)
  make : List α → Run Value
  ofChar : Char → α
  isBlank : α → Bool
  endsLine : α → Bool

namespace Alphabet

variable {α : Type} [BEq α] (a : Alphabet α)

/-- Several sequences as a list. -/
def makeAll (parts : List (List α)) : Run Value := do Run.newList (← parts.mapM a.make)

/-! ## Searching -/

/-- The parameters of a search: what for, and between which bounds. -/
def searchParameters : List FunctionParameter :=
  [place "part", maybePlace "start" .none, maybePlace "stop" .none]

/-- Some of the ends of a stretch, or its start, is the part. -/
def meetsEnd (atStart : Bool) (whole : List α) (start stop : Option Int) (part : List α) : Bool :=
  match stretch whole start stop with
  | some (inside, _) =>
    if atStart then part.isPrefixOf inside else part.reverse.isPrefixOf inside.reverse
  | none => false

/-- Starts, or ends, with one of several parts. -/
def meetsAny (atStart : Bool) (whole : List α) (start stop : Option Int) : List Value → Run Bool
  | [] => pure false
  | value :: rest => do
    if meetsEnd atStart whole start stop (← a.read value) then return true
    else meetsAny atStart whole start stop rest

/-- Searches. -/
def search (whole : List α) (name : String) (call : Call) : Run Value := do
  match ← taken searchParameters call with
  | [part, start, stop] =>
    let start ← boundIn start
    let stop ← boundIn stop
    match name, part with
    | "startswith", .tuple _ parts => return .bool (← a.meetsAny true whole start stop parts)
    | "endswith", .tuple _ parts => return .bool (← a.meetsAny false whole start stop parts)
    | "startswith", part => return .bool (meetsEnd true whole start stop (← a.read part))
    | "endswith", part => return .bool (meetsEnd false whole start stop (← a.read part))
    | "count", part =>
      let part ← a.part part
      match stretch whole start stop with
      | some (inside, _) => Run.newInt (countOf part (inside.length + 1) inside)
      | none => Run.newInt 0
    | name, part =>
      let found := findIn (name == "rfind" || name == "rindex") (← a.part part) whole start stop
      match found with
      | some position => Run.newInt position
      | none =>
        if name = "find" || name = "rfind" then Run.newInt (-1)
        else throw (.badValue "substring not found")
  | _ => throw .mismatch

/-! ## Pieces -/

/-- The pieces between separators or blanks. -/
def split (fromRight : Bool) (whole : List α) (call : Call) : Run Value := do
  match ← taken [maybeNamed "sep" .none, maybeNamed "maxsplit" (.int 0 (-1))] call with
  | [separator, count] =>
    let cuts := cutsFor whole.length (← wholeOf count)
    match separator with
    | .none => a.makeAll (blankPieces fromRight a.isBlank cuts whole)
    | separator =>
      let separator ← a.read separator
      if separator.isEmpty then throw (.badValue "empty separator")
      a.makeAll (piecesAt fromRight separator cuts whole)
  | _ => throw .mismatch

/-- The part before a separator, the separator, and the part behind it. -/
def partition (fromRight : Bool) (whole : List α) (call : Call) : Run Value := do
  let separator ← a.read (← onlyArgument call)
  if separator.isEmpty then throw (.badValue "empty separator")
  let parts := match partitionIn fromRight separator whole with
    | some (before, behind) => [before, separator, behind]
    | none => if fromRight then [[], [], whole] else [whole, [], []]
  Run.newTuple (← parts.mapM a.make)

/-- The lines of a sequence; `before` is the line on the way, in reverse. -/
def linesFrom (keepsEnds : Bool) (before : List α) : List α → List (List α)
  | [] => if before.isEmpty then [] else [before.reverse]
  | x :: y :: rest =>
    if x == a.ofChar '\r' && y == a.ofChar '\n' then
      (before.reverse ++ if keepsEnds then [x, y] else []) :: linesFrom keepsEnds [] rest
    else if a.endsLine x then
      (before.reverse ++ if keepsEnds then [x] else []) :: linesFrom keepsEnds [] (y :: rest)
    else linesFrom keepsEnds (x :: before) (y :: rest)
  | [x] =>
    if a.endsLine x then [before.reverse ++ if keepsEnds then [x] else []]
    else [(x :: before).reverse]

/-- Replaces tabs by blanks up to the next column that is a multiple of the size. -/
def expanded (size : Nat) (column : Nat) : List α → List α
  | [] => []
  | x :: rest =>
    if x == a.ofChar '\t' then
      if size = 0 then expanded size column rest
      else
        let count := size - column % size
        List.replicate count (a.ofChar ' ') ++ expanded size (column + count) rest
    else if x == a.ofChar '\n' || x == a.ofChar '\r' then x :: expanded size 0 rest
    else x :: expanded size (column + 1) rest

/-- Joins sequences. -/
def join (whole : List α) (call : Call) : Run Value := do
  let parts ← (← e.items (← onlyArgument call)).mapM a.read
  a.make (parts.intersperse whole).flatten

/-- Without what stands at the ends. -/
def strip (left right : Bool) (whole : List α) (call : Call) : Run Value := do
  match ← taken [maybePlace "chars" .none] call with
  | [.none] => a.make (stripped left right a.isBlank whole)
  | [chars] =>
    let chars ← a.read chars
    a.make (stripped left right (fun x => chars.contains x) whole)
  | _ => throw .mismatch

/-! ## Widths -/

/-- The longest sequence that is made by filling. -/
def fillLimit : Nat := 10000000

/-- So many times the same item. -/
def filling (fill : α) (count : Int) : Run (List α) := do
  if (fillLimit : Int) < count then throw .overflow
  return List.replicate count.toNat fill

/-- Fills up to a width on one of the sides, or on both. -/
def fillUp (left right : Bool) (whole : List α) (call : Call) : Run Value := do
  match ← taken [place "width", maybePlace "fillchar" .none] call with
  | [width, fill] =>
    let width ← e.indexOf width
    let fill ← match fill with
      | .none =>
        if call.positional.length < 2 then pure (a.ofChar ' ') else throw .mismatch
      | fill =>
        match ← a.read fill with
        | [x] => pure x
        | _ => throw .mismatch
    let missing := width - whole.length
    if missing ≤ 0 then return ← a.make whole
    let before := if left && right then missing / 2 + (if missing % 2 = 1 && width % 2 = 1 then 1 else 0)
      else if left then missing else 0
    a.make ((← filling fill before) ++ whole ++ (← filling fill (missing - before)))
  | _ => throw .mismatch

/-- Fills up with zeros behind the sign. -/
def fillZeros (whole : List α) (call : Call) : Run Value := do
  let missing := (← e.indexOf (← onlyArgument call)) - whole.length
  let zeros ← filling (a.ofChar '0') missing
  match whole with
  | x :: rest =>
    if x == a.ofChar '+' || x == a.ofChar '-' then a.make (x :: zeros ++ rest)
    else a.make (zeros ++ whole)
  | [] => a.make zeros

/-! ## All functions -/

/-- What a function that texts and bytes share gives; nothing if there is no such function. -/
def method? (whole : List α) (name : String) (call : Call) : Run (Option Value) := do
  if ["count", "find", "index", "rfind", "rindex", "startswith", "endswith"].contains name then
    return some (← a.search whole name call)
  match name with
  | "split" => return some (← a.split false whole call)
  | "rsplit" => return some (← a.split true whole call)
  | "partition" => return some (← a.partition false whole call)
  | "rpartition" => return some (← a.partition true whole call)
  | "splitlines" =>
    match ← taken [maybeNamed "keepends" (.bool false)] call with
    | [keeps] => return some (← a.makeAll (a.linesFrom (← e.isTrue keeps) [] whole))
    | _ => throw .mismatch
  | "expandtabs" =>
    match ← taken [maybeNamed "tabsize" (.int 0 8)] call with
    | [size] => return some (← a.make (a.expanded (← wholeOf size).toNat 0 whole))
    | _ => throw .mismatch
  | "join" => return some (← a.join e whole call)
  | "strip" => return some (← a.strip true true whole call)
  | "lstrip" => return some (← a.strip true false whole call)
  | "rstrip" => return some (← a.strip false true whole call)
  | "center" => return some (← a.fillUp e true true whole call)
  | "ljust" => return some (← a.fillUp e false true whole call)
  | "rjust" => return some (← a.fillUp e true false whole call)
  | "zfill" => return some (← a.fillZeros e whole call)
  | "replace" =>
    match ← taken [place "old", place "new", maybePlace "count" (.int 0 (-1))] call with
    | [old, new, count] =>
      let times := cutsFor whole.length (← wholeOf count)
      return some (← a.make (replaceIn (← a.read old) (← a.read new) times whole))
    | _ => throw .mismatch
  | "removeprefix" =>
    let part ← a.read (← onlyArgument call)
    return some (← a.make (if part.isPrefixOf whole then whole.drop part.length else whole))
  | "removesuffix" =>
    let part ← a.read (← onlyArgument call)
    let found := !part.isEmpty && part.reverse.isPrefixOf whole.reverse
    return some (← a.make (if found then whole.take (whole.length - part.length) else whole))
  | _ => return none

end Alphabet

end EachSubject.Engine
