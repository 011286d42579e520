import EachSubject.Execution.Method.Special

/-!
# Making values of the language

What calling a class of the language gives: a value converted from another one, a collection of the
items of one, an error, a way to keep a function in a class, or what iterates over other values.
-/

namespace EachSubject.Engine

variable (e : Engine)

/-! ## Numbers -/

/-- The digits of a numeral in a base, single underscores between them left out. -/
def numeralDigits? (base : Nat) (isFirst : Bool) : List Char → Option (List Nat)
  | [] => if isFirst then none else some []
  | '_' :: c :: rest =>
    if isFirst || c = '_' then none else numeralDigits? base true (c :: rest)
  | c :: rest =>
    let digit : Option Nat := match Text.digitValue? c with
      | some d => some d
      | none =>
        let c := c.toLower
        if 'a' ≤ c && c ≤ 'z' then some (c.toNat - 'a'.toNat + 10) else none
    match digit with
    | some d =>
      if d < base then (numeralDigits? base false rest).map (d :: ·) else none
    | none => none

/-- The letters that tell the base of a numeral. -/
def baseMarks : List (Char × Nat) :=
  [('x', 16), ('X', 16), ('o', 8), ('O', 8), ('b', 2), ('B', 2)]

/-- The digits behind the mark of a base, with an underscore after the mark left out. -/
def behindMark (digits : List Char) : List Char :=
  match digits with
  | '_' :: rest => rest
  | digits => digits

/-- The whole number that a text denotes in a base; base 0 leaves it to the text to tell the base. -/
def wholeInBase? (base : Nat) (text : List Char) : Option Int := do
  let text := ((text.dropWhile Text.isNumberBlank).reverse.dropWhile Text.isNumberBlank).reverse
  let (negative, digits) := match text with
    | '-' :: rest => (true, rest)
    | '+' :: rest => (false, rest)
    | rest => (false, rest)
  let (base, digits, isMarked) : Nat × List Char × Bool := match digits with
    | '0' :: c :: rest =>
      match baseMarks.lookup c with
      | some marked => if base = 0 || base = marked then (marked, behindMark rest, true)
        else (base, digits, false)
      | none => (base, digits, false)
    | digits => (base, digits, false)
  let found ← numeralDigits? (if base = 0 then 10 else base) true digits
  if base = 0 && !isMarked && 1 < found.length && found.head? = some 0 && found.any (· != 0) then none
  let isPower := [2, 4, 8, 16, 32].contains base
  if !isPower && Text.digitLimit < found.length then none
  let base := if base = 0 then 10 else base
  let size := found.foldl (fun n d => base * n + d) 0
  return if negative then -(size : Int) else size

/-- A whole number from a text in a base. -/
def intInBase (value base : Value) : Run Value := do
  let base ← e.indexOf base
  if base < 0 || base = 1 || 36 < base then throw (.badValue "int() base must be >= 2 and <= 36, or 0")
  let text ← match value.plain with
    | .text _ text => pure text.toList
    | .bytes _ bytes => pure (Value.asciiText bytes).toList
    | _ => throw .mismatch
  Run.newInt (← Run.orFault (.badValue "invalid literal for int()") (wholeInBase? base.toNat text))

/-- The outcome of the first function of the names that the class of an object has. -/
def convertedBy? (value : Value) : List String → Run (Option Value)
  | [] => pure none
  | name :: rest => do
    match ← e.callHook? value name [] with
    | some found => return some found
    | none => convertedBy? value rest

/-- A whole number from a value. -/
def makeInt (call : Call) : Run Value := do
  match ← taken [maybePlace "x" (.int 0 0), maybeNamed "base" .none] call with
  | [value, .none] =>
    match ← e.convertedBy? value ["__int__", "__index__", "__trunc__"] with
    | some found => Run.newInt (← wholeOf found)
    | none =>
      match value with
      | .int place n => return .int place n
      | value => Run.newInt (← Run.lift (Value.wholeOf value))
  | [value, base] =>
    if call.positional.isEmpty then throw .mismatch else e.intInBase value base
  | _ => throw .mismatch

/-- A double from a value. -/
def makeFloat (call : Call) : Run Value := do
  match ← taken [maybePlace "x" (.int 0 0)] call with
  | [value] =>
    match ← e.convertedBy? value ["__float__", "__index__"] with
    | some found => Run.newFloat (← Run.lift (Value.doubleOf found))
    | none =>
      match value with
      | .float place x => return .float place x
      | value => Run.newFloat (← Run.lift (Value.doubleOf value))
  | _ => throw .mismatch

/-- Splits the text of a complex number before the sign of its imaginary part; `before` is in
    reverse. -/
def splitSign (before : List Char) : List Char → Option (List Char × List Char)
  | [] => none
  | c :: rest =>
    match splitSign (c :: before) rest with
    | some found => some found
    | none =>
      let isSign := (c = '+' || c = '-') && !before.isEmpty &&
        before.head? != some 'e' && before.head? != some 'E'
      if isSign then some (before.reverse, c :: rest) else none

/-- The complex number that a text denotes. -/
def complexOfText? (text : String) : Option Double.Complex := do
  let text := Text.trimBlanks text.toList
  let text := match text with
    | '(' :: rest =>
      if rest.getLast? = some ')' then Text.trimBlanks rest.dropLast else text
    | text => text
  let number (part : List Char) : Option Double :=
    if part = [] || part = ['+'] then some (.ofInt 1)
    else if part = ['-'] then some (.ofInt (-1))
    else Double.ofText? (String.ofList part)
  match text.reverse with
  | [] => none
  | c :: rest =>
    if c = 'j' || c = 'J' then
      match splitSign [] rest.reverse with
      | some (re, im) => return (← Double.ofText? (String.ofList re), ← number im)
      | none => return (.zero false, ← number rest.reverse)
    else return (← Double.ofText? (String.ofList text), .zero false)

/-- A complex number from one or two values. -/
def makeComplex (call : Call) : Run Value := do
  match ← taken [maybeNamed "real" (.int 0 0), maybeNamed "imag" .none] call with
  | [re, im] =>
    match re.plain, im with
    | .text _ text, .none =>
      match complexOfText? text with
      | some (re, im) => return .complex (← Run.freshPlace) re im
      | none => throw (.badValue "complex() arg is a malformed string")
    | .text .., _ => throw .mismatch
    | re, im => do
      let first ← Run.orFault .mismatch (← complexOf? re)
      let second ← match im with
        | .none => pure (.zero false, .zero false)
        | im => do Run.orFault .mismatch (← complexOf? im)
      let found :=
        if im.isSame .none then first
        else (first.1.minus second.2, if first.2.isZero then second.1 else first.2.plus second.1)
      return .complex (← Run.freshPlace) found.1 found.2
  | _ => throw .mismatch

/-! ## Texts and bytes -/

/-- A text from a value, or from bytes in an encoding. -/
def makeText (call : Call) : Run Value := do
  match ← taken [maybeNamed "object" (.text 0 ""), maybeNamed "encoding" .none,
      maybeNamed "errors" .none] call with
  | [.text place shown, .none, .none] => return .text place shown
  | [value, .none, .none] => Run.newText (← e.plainTextOf value)
  | [value, encoding, way] =>
    match value.plain with
    | .bytes _ bytes =>
      let encoding := if encoding.isSame .none then .text 0 "utf-8" else encoding
      let way := if way.isSame .none then .text 0 "strict" else way
      decoded bytes encoding way
    | _ => throw .mismatch
  | _ => throw .mismatch

/-- Bytes from a text in an encoding, a number of zeros, or items. -/
def makeBytes (call : Call) : Run Value := do
  match ← taken [maybeNamed "source" (.bytes 0 []), maybeNamed "encoding" .none,
      maybeNamed "errors" .none] call with
  | [source, encoding, way] =>
    match source.plain, encoding, way with
    | .text _ text, encoding, way =>
      if encoding.isSame .none then throw .mismatch
      Run.newBytes (← encoded text.toList encoding
        (if way.isSame .none then .text 0 "strict" else way))
    | _, .none, .none =>
      match ← e.callHook? source "__bytes__" [] with
      | some (.bytes place bytes) => return .bytes place bytes
      | some _ => throw .mismatch
      | none =>
        match source.plain with
        | .bytes place bytes => return .bytes place bytes
        | .int _ n =>
          if n < 0 then throw (.badValue "negative count")
          if (bytesLimit : Int) < n then throw .overflow
          Run.newBytes (List.replicate n.toNat 0)
        | .bool b => Run.newBytes (List.replicate b.toNat 0)
        | _ => Run.newBytes (← e.byteItems source)
    | _, _, _ => throw .mismatch
  | _ => throw .mismatch

/-! ## Collections -/

/-- The items of the only argument, if there is one. -/
def itemsOfCall (call : Call) : Run (List Value) := do
  match ← taken [maybePlace "iterable" (.tuple 0 [])] call with
  | [source] => e.items source
  | _ => throw .mismatch

/-- The items of a new set; those of another set come in the order of a copy. -/
def itemsForNewSet (call : Call) : Run (List Value) := do
  match call.positional, call.keywords with
  | [.set _ items], [] => return Value.inCopyOrder items
  | [.frozenset _ items], [] => return Value.inCopyOrder items
  | _, _ => do setItems (← e.itemsOfCall call)

/-- A range. -/
def makeRange (call : Call) : Run Value := do
  match ← taken [place "start", maybePlace "stop" .none, maybePlace "step" (.int 0 1)] call with
  | [first, second, step] =>
    if call.positional.length = 1 then
      return .range (← Run.freshPlace) 0 (← e.indexOf first) 1
    let start ← e.indexOf first
    let stop ← e.indexOf second
    let step ← e.indexOf step
    if step = 0 then throw (.badValue "range() arg 3 must not be zero")
    return .range (← Run.freshPlace) start stop step
  | _ => throw .mismatch

/-- A slice. -/
def makeSlice (call : Call) : Run Value := do
  match ← taken [place "start", maybePlace "stop" .none, maybePlace "step" .none] call with
  | [first, second, step] =>
    if call.positional.length = 1 then return .slice (← Run.freshPlace) .none first .none
    return .slice (← Run.freshPlace) first second step
  | _ => throw .mismatch

/-- What iterates over other values. -/
def makeIterator (name : String) (call : Call) : Run Value := do
  match name with
  | "enumerate" =>
    match ← taken [{ name := "iterable" }, maybeNamed "start" (.int 0 0)] call with
    | [source, start] =>
      Run.newStream name name [← e.iterator source, ← Run.newInt (← e.indexOf start)]
    | _ => throw .mismatch
  | "zip" =>
    match ← taken [restPlaces "iterables", maybeKeyword "strict" (.bool false)] call with
    | [.tuple _ sources, strict] =>
      let sources ← sources.mapM e.iterator
      Run.newStream name (if ← e.isTrue strict then "strict zip" else name) sources
    | _ => throw .mismatch
  | "reversed" => do e.reversed (← onlyArgument call)
  | "filter" =>
    match ← taken [place "function", place "iterable"] call with
    | [test, source] => do Run.newStream name name [test, ← e.iterator source]
    | _ => throw .mismatch
  | _ =>
    match ← taken [place "func", place "iterable", restPlaces "iterables"] call with
    | [f, source, .tuple _ sources] => do
      Run.newStream name name (f :: (← (source :: sources).mapM e.iterator))
    | _ => throw .mismatch

/-! ## Other values -/

/-- A way to keep a function in a class. -/
def makeWrapping (binding : Binding) (call : Call) : Run Value := do
  match binding with
  | .property =>
    match ← taken [maybeNamed "fget" .none, maybeNamed "fset" .none, maybeNamed "fdel" .none,
        maybeNamed "doc" .none] call with
    | getter :: _ => return .wrapping .property getter
    | _ => throw .mismatch
  | binding => return .wrapping binding (← onlyArgument call)

/-- An object, seen from the classes above one of its classes. -/
def makeAbove (call : Call) : Run Value := do
  match ← taken [place "type", place "object"] call with
  | [.class owner _, object] =>
    let w ← Run.world
    let fits : Bool := match object with
      | .class other _ => w.isSubclass other owner || owner == ClassName.builtin "type"
      | object => w.isSubclass (w.classOf object) owner
    if fits then return .above owner object else throw .mismatch
  | _ => throw .mismatch

/-- The classes of errors that take keywords. -/
def errorsWithKeywords : List String :=
  ["ImportError", "ModuleNotFoundError", "NameError", "AttributeError", "UnboundLocalError"]

/-- The classes of the errors that the numbers of the system stand for. -/
def systemErrors : List (Int × String) :=
  [(1, "PermissionError"), (2, "FileNotFoundError"), (3, "ProcessLookupError"),
   (4, "InterruptedError"), (10, "ChildProcessError"), (11, "BlockingIOError"),
   (13, "PermissionError"), (17, "FileExistsError"), (20, "NotADirectoryError"),
   (21, "IsADirectoryError"), (32, "BrokenPipeError"), (103, "ConnectionAbortedError"),
   (104, "ConnectionResetError"), (108, "BrokenPipeError"), (110, "TimeoutError"),
   (111, "ConnectionRefusedError"), (114, "BlockingIOError"), (115, "BlockingIOError")]

/-- An error. The number of an error of the system decides its class. -/
def makeError (owner : ClassName) (call : Call) : Run Value := do
  if !call.keywords.isEmpty && !errorsWithKeywords.contains owner.path then throw .mismatch
  let arguments ← Run.currentAll call.positional
  if owner.path = "UnicodeDecodeError" || owner.path = "UnicodeEncodeError" then
    if arguments.length != 5 then throw .mismatch
  match owner == .builtin "OSError", arguments with
  | true, .int _ number :: message :: rest =>
    let owner := ClassName.builtin ((systemErrors.lookup number).getD "OSError")
    let kept := if rest.length ≤ 3 then [Value.int 0 number, message] else arguments
    return .error (← Run.freshPlace) owner kept
  | _, _ => return .error (← Run.freshPlace) owner arguments

/-- What calling a class of the language gives. -/
def makeBuiltin (path : String) (call : Call) : Run Value := do
  match path with
  | "int" => e.makeInt call
  | "float" => e.makeFloat call
  | "complex" => makeComplex call
  | "bool" =>
    match ← taken [maybePlace "x" (.bool false)] call with
    | [value] => return .bool (← e.isTrue value)
    | _ => throw .mismatch
  | "str" => e.makeText call
  | "bytes" => e.makeBytes call
  | "list" => do Run.newList (← e.itemsOfCall call)
  | "tuple" =>
    match call.positional, call.keywords with
    | [.tuple place items], [] => return .tuple place items
    | _, _ => do Run.newTuple (← e.itemsOfCall call)
  | "set" => do return .set (← Run.freshPlace) (← e.itemsForNewSet call)
  | "frozenset" =>
    match call.positional, call.keywords with
    | [.frozenset place items], [] => return .frozenset place items
    | _, _ => do return .frozenset (← Run.freshPlace) (← e.itemsForNewSet call)
  | "dict" => do
    let entries ← e.entriesOfCall call
    return .dict (← Run.freshPlace) entries
  | "range" => e.makeRange call
  | "slice" => makeSlice call
  | "property" => makeWrapping .property call
  | "staticmethod" => makeWrapping .static call
  | "classmethod" => makeWrapping .onClass call
  | "super" => makeAbove call
  | "object" => do
    noArguments call
    return .reference (← Run.allocate (.object [])) objectClass
  | "NoneType" => do
    noArguments call
    return .none
  | "ellipsis" => do
    noArguments call
    return .ellipsis
  | "NotImplementedType" => do
    noArguments call
    return Value.notImplemented
  | path =>
    if ["enumerate", "zip", "reversed", "filter", "map"].contains path then e.makeIterator path call
    else
      let owner : ClassName := .builtin path
      if (← Run.world).isSubclass owner baseErrorClass then makeError owner call else throw .mismatch

end EachSubject.Engine
