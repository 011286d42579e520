import EachSubject.Execution.Operator

/-!
# Arguments of the functions of the language

The functions of the language declare what they take as a list of parameters, like any function. What
they receive comes as a list of values, in the order of the parameters.
-/

namespace EachSubject.Engine

/-- A parameter that takes an argument by its place. -/
def place (name : String) : FunctionParameter := { name, mode := .positionalOnly }

/-- A parameter that may take an argument by its place. -/
def maybePlace (name : String) (default : Value) : FunctionParameter :=
  { name, mode := .positionalOnly, default := some default }

/-- A parameter that may take an argument by its place or by its name. -/
def maybeNamed (name : String) (default : Value) : FunctionParameter := { name, default := some default }

/-- A parameter that takes an argument by its name only, if there is one. -/
def maybeKeyword (name : String) (default : Value) : FunctionParameter :=
  { name, mode := .keywordOnly, default := some default }

/-- The parameter that takes all arguments by place that are left. -/
def restPlaces (name : String) : FunctionParameter := { name, mode := .extraPositional }

/-- The values that the parameters receive; those that are left over come as one tuple. -/
def taken (parameters : List FunctionParameter) (call : Call) : Run (List Value) := do
  let arguments ← Run.orFault .mismatch (call.bind? parameters)
  arguments.mapM fun (_, argument) =>
    match argument with
    | .one value => Run.current value
    | .extra values => do return .tuple 0 (← Run.currentAll values)
    | .extraKeywords entries => Run.newDict entries

/-- A call without arguments. -/
def noArguments (call : Call) : Run Unit := do
  discard <| taken [] call

/-- The only argument, by place. -/
def onlyArgument (call : Call) : Run Value := do
  match ← taken [place "x"] call with
  | [value] => return value
  | _ => throw .mismatch

/-- The characters of a text. -/
def charsOf (value : Value) : Run (List Char) := do
  match value.plain with
  | .text _ text => return text.toList
  | _ => throw .mismatch

/-- A whole number. -/
def wholeOf (value : Value) : Run Int := do
  match value.plain with
  | .int _ n => return n
  | .bool b => return b.toInt
  | _ => throw .mismatch

/-- Is nothing. -/
def isNone : Value → Bool
  | .none => true
  | _ => false

/-- A new text from characters. -/
def newChars (chars : List Char) : Run Value := Run.newText (String.ofList chars)

/-! ## Sequences of characters or bytes -/

section Sequences

variable {α : Type} [BEq α]

/-- One sequence begins at each of these positions of another. -/
def positionsOf (part : List α) (position : Nat) : List α → List Nat
  | [] => if part.isEmpty then [position] else []
  | x :: rest =>
    (if part.isPrefixOf (x :: rest) then [position] else []) ++ positionsOf part (position + 1) rest

/-- The stretch between two bounds, and where it starts; nothing if it starts behind the end. -/
def stretch (whole : List α) (start stop : Option Int) : Option (List α × Nat) :=
  let count : Int := whole.length
  let bound (n : Int) : Int := if n < 0 then max 0 (n + count) else n
  let first := (start.map bound).getD 0
  let last := min count ((stop.map bound).getD count)
  if last < first then none
  else some ((whole.take last.toNat).drop first.toNat, first.toNat)

/-- Where a part stands first, or last, in a stretch. -/
def findIn (fromRight : Bool) (part whole : List α) (start stop : Option Int) : Option Nat :=
  match stretch whole start stop with
  | none => none
  | some (inside, first) =>
    let found := positionsOf part 0 inside
    ((if fromRight then found.getLast? else found.head?).map (· + first))

/-- How often a part stands in a sequence without overlapping; `fuel` bounds the steps. -/
def countOf (part : List α) : Nat → List α → Nat
  | 0, _ => 0
  | fuel + 1, whole =>
    if part.isEmpty then whole.length + 1
    else
      match whole with
      | [] => 0
      | x :: rest =>
        if part.isPrefixOf (x :: rest) then
          countOf part fuel ((x :: rest).drop part.length) + 1
        else countOf part fuel rest

/-- The pieces between separators, at most so many cuts; `before` is in reverse. -/
def cutAt (separator : List α) (before : List α) : Nat → Nat → List α → List (List α)
  | 0, _, rest => [before.reverse ++ rest]
  | _, 0, rest => [before.reverse ++ rest]
  | _ + 1, _ + 1, [] => [before.reverse]
  | fuel + 1, cuts + 1, x :: rest =>
    if separator.isPrefixOf (x :: rest) then
      before.reverse :: cutAt separator [] fuel cuts ((x :: rest).drop separator.length)
    else cutAt separator (x :: before) fuel (cuts + 1) rest

/-- The pieces between separators, at most so many cuts from one of the ends. -/
def piecesAt (fromRight : Bool) (separator : List α) (cuts : Nat) (whole : List α) : List (List α) :=
  let fuel := whole.length + 1
  if fromRight then
    ((cutAt separator.reverse [] fuel cuts whole.reverse).map List.reverse).reverse
  else cutAt separator [] fuel cuts whole

/-- The pieces between blanks, at most so many cuts. -/
def wordsIn (isBlank : α → Bool) : Nat → Nat → List α → List (List α)
  | 0, _, _ => []
  | fuel + 1, cuts, whole =>
    match whole.dropWhile isBlank, cuts with
    | [], _ => []
    | rest, 0 => [rest]
    | rest, cuts + 1 =>
      let word := rest.takeWhile (!isBlank ·)
      word :: wordsIn isBlank fuel cuts (rest.drop word.length)

/-- The pieces between blanks, at most so many cuts from one of the ends. -/
def blankPieces (fromRight : Bool) (isBlank : α → Bool) (cuts : Nat) (whole : List α) :
    List (List α) :=
  let fuel := whole.length + 1
  if fromRight then ((wordsIn isBlank fuel cuts whole.reverse).map List.reverse).reverse
  else wordsIn isBlank fuel cuts whole

/-- Replaces a part, at most so many times. -/
def replaceIn (part other : List α) (times : Nat) (whole : List α) : List α :=
  if part.isEmpty then
    let fresh := whole.zipIdx.flatMap fun (x, i) => if i < times then other ++ [x] else [x]
    if whole.length < times then fresh ++ other else fresh
  else ((cutAt part [] (whole.length + 1) times whole).intersperse other).flatten

/-- Without the items at both ends, or at one of them, that are to go. -/
def stripped (left right : Bool) (goes : α → Bool) (whole : List α) : List α :=
  let whole := if left then whole.dropWhile goes else whole
  if right then (whole.reverse.dropWhile goes).reverse else whole

/-- The part before the first, or last, separator, and the part behind it. -/
def partitionIn (fromRight : Bool) (separator whole : List α) : Option (List α × List α) :=
  (findIn fromRight separator whole none none).map fun position =>
    (whole.take position, whole.drop (position + separator.length))

end Sequences

/-- A bound, or nothing. -/
def boundIn (value : Value) : Run (Option Int) := do
  match value with
  | .none => return none
  | value => return some (← wholeOf value)

/-- The greatest number of cuts that a count stands for. -/
def cutsFor (whole : Nat) (count : Int) : Nat := if count < 0 then whole + 1 else count.toNat

end EachSubject.Engine
