import EachSubject.Execution.Object

/-!
# Functions of the language

The functions that are known everywhere: they ask for attributes and kinds, go through items, and write
values as texts. What the standard library gives besides is here too, as far as wrapper modules can
reach it.
-/

namespace EachSubject.Engine

variable (e : Engine)

/-! ## Attributes -/

/-- Asks for, sets or removes an attribute. -/
def attributeFunction (name : String) (call : Call) : Run Value := do
  let asked (value : Value) : Run String := do return String.ofList (← charsOf value)
  match name with
  | "getattr" =>
    match ← taken [place "object", place "name", maybePlace "default" .none] call with
    | [object, wanted, default] =>
      let wanted ← asked wanted
      if call.positional.length < 3 then e.getAttribute object wanted
      else tryCatch (e.getAttribute object wanted) fun fault =>
        if fault.errorClass == Fault.missingAttribute.errorClass then pure default else throw fault
    | _ => throw .mismatch
  | "hasattr" =>
    match ← taken [place "object", place "name"] call with
    | [object, wanted] =>
      let wanted ← asked wanted
      tryCatch (do
        discard <| e.getAttribute object wanted
        return .bool true) fun fault =>
        if fault.errorClass == Fault.missingAttribute.errorClass then pure (.bool false)
        else throw fault
    | _ => throw .mismatch
  | "setattr" =>
    match ← taken [place "object", place "name", place "value"] call with
    | [object, wanted, value] =>
      e.setAttribute object (← asked wanted) value
      return .none
    | _ => throw .mismatch
  | _ =>
    match ← taken [place "object", place "name"] call with
    | [object, wanted] =>
      e.deleteAttribute object (← asked wanted)
      return .none
    | _ => throw .mismatch

/-- The attributes of an object as a dictionary. -/
def attributesOf (object : Value) : Run Value := do
  match object with
  | .class owner _ =>
    let members := (((← Run.world).class? owner).map (·.members)).getD []
    Run.newDict (members.map fun (name, member) => (name, rawMember owner name member))
  | object =>
    tryCatch (e.getAttribute object "__dict__") fun fault =>
      match fault with
      | .missingAttribute => throw .mismatch
      | fault => throw fault

/-- The value can be called. -/
def isCallable (value : Value) : Run Bool := do
  match value with
  | .reference _ owner =>
    if owner = Value.functionClass then return true
    else return (← member? owner "__call__").isSome
  | .class .. => return true
  | .function .. => return true
  | .bound .. => return true
  | .builtin _ => return true
  | .method .. => return true
  | .descriptor .. => return true
  | .wrapping .static _ => return true
  | .subscripted .. => return true
  | .classAlias .. => return true
  | .special _ => return true
  | .union .subscript _ => return true
  | .literalType _ => return true
  | .annotated .. => return true
  | .newType .. => return true
  | _ => return false

/-! ## Items -/

/-- Some item counts as true, or as false if that is wanted. -/
def meets (wanted : Bool) (source : Value) : Run Bool :=
  e.anyItem source fun item => do return (← e.isTrue item) == wanted

/-- The greatest or the least of several values. -/
def extremeOf (wantsGreatest : Bool) (call : Call) : Run Value := do
  let words := call.keywords.map (·.1)
  if !words.all (["key", "default"].contains ·) then throw .mismatch
  let key := (call.keywords.lookup "key").getD .none
  match call.positional with
  | [] => throw .mismatch
  | [source] =>
    match ← e.extreme wantsGreatest key none (← e.items source) with
    | some found => return found
    | none =>
      match call.keywords.lookup "default" with
      | some default => return default
      | none => throw (.badValue "arg is an empty sequence")
  | several =>
    if (call.keywords.lookup "default").isSome then throw .mismatch
    Run.orFault .mismatch (← e.extreme wantsGreatest key none several)

/-- The sum of items. -/
def sumOf (call : Call) : Run Value := do
  match ← taken [place "iterable", maybeNamed "start" (.int 0 0)] call with
  | [source, start] =>
    match start with
    | .text .. => throw .mismatch
    | .bytes .. => throw .mismatch
    | start => (← e.items source).foldlM (e.binaryOperator "+") start
  | _ => throw .mismatch

/-- Asks for items. -/
def itemFunction (name : String) (call : Call) : Run Value := do
  match name with
  | "len" =>
    let count ← Run.orFault .mismatch (← e.size? (← onlyArgument call))
    if Nat.pow 2 63 ≤ count then throw .overflow
    Run.newInt count
  | "all" => return .bool !(← e.meets false (← onlyArgument call))
  | "any" => return .bool (← e.meets true (← onlyArgument call))
  | "sum" => e.sumOf call
  | "max" => e.extremeOf true call
  | "min" => e.extremeOf false call
  | "sorted" =>
    match ← taken (place "iterable" :: sortingParameters) call with
    | [source, key, isReversed] => do
      Run.newList (← e.sorted (← e.items source) key (← e.isTrue isReversed))
    | _ => throw .mismatch
  | "iter" =>
    match ← taken [place "object", maybePlace "sentinel" .none] call with
    | [source, sentinel] =>
      if call.positional.length = 1 then e.iterator source
      else if !(← isCallable source) then throw .mismatch
      else Run.newStream "callable_iterator" "call" [source, sentinel]
    | _ => throw .mismatch
  | _ =>
    match ← taken [place "iterator", maybePlace "default" .none] call with
    | [iterator, default] =>
      if !(← isIterator iterator) then throw .mismatch
      match ← e.nextItem iterator with
      | some item => return item
      | none => if call.positional.length = 2 then return default else throw .exhausted
    | _ => throw .mismatch

/-! ## Texts and numbers -/

/-- A whole number with the mark of its base. -/
def basedText (base : Nat) (mark : String) (n : Int) : String :=
  (if n < 0 then "-" else "") ++ mark ++ String.ofList (Nat.toDigits base n.natAbs)

/-- Writes a value as a text, or asks for its number. -/
def writingFunction (name : String) (call : Call) : Run Value := do
  match name with
  | "repr" => Run.newText (← e.textOf (← onlyArgument call))
  | "ascii" => Run.newText (asciiOnly (← e.textOf (← onlyArgument call)))
  | "format" =>
    match ← taken [place "value", maybePlace "format_spec" (.text 0 "")] call with
    | [value, layout] => Run.newText (← e.format value (String.ofList (← charsOf layout)))
    | _ => throw .mismatch
  | "bin" => Run.newText (basedText 2 "0b" (← e.indexOf (← onlyArgument call)))
  | "oct" => Run.newText (basedText 8 "0o" (← e.indexOf (← onlyArgument call)))
  | "hex" => Run.newText (basedText 16 "0x" (← e.indexOf (← onlyArgument call)))
  | "chr" =>
    let n ← e.indexOf (← onlyArgument call)
    if Nat.pow 2 31 ≤ (if n < 0 then n.natAbs - 1 else n.natAbs) then throw .overflow
    if n < 0 || 0x110000 ≤ n then throw (.badValue "chr() arg not in range(0x110000)")
    Run.newText (Char.ofNat n.toNat).toString
  | _ =>
    match (← onlyArgument call).plain with
    | .text _ shown =>
      match shown.toList with
      | [c] => Run.newInt c.toNat
      | _ => throw .mismatch
    | .bytes _ [b] => Run.newInt b.toNat
    | _ => throw .mismatch

/-- Works on numbers. -/
def numberFunction (name : String) (call : Call) : Run Value := do
  match name with
  | "abs" => do
    let value ← onlyArgument call
    match ← e.callHook? value "__abs__" [] with
    | some found => return found
    | none => magnitude value
  | "divmod" =>
    match ← taken [place "x", place "y"] call with
    | [x, y] =>
      match ← e.operatorHook? x "__divmod__" y with
      | some found => return found
      | none =>
        if (numberRank? x.plain).isNone || (numberRank? y.plain).isNone then throw .mismatch
        e.quotientAndRest x y
    | _ => throw .mismatch
  | "pow" =>
    match ← taken [maybeNamed "base" .none, maybeNamed "exp" .none, maybeNamed "mod" .none] call with
    | [base, exponent, modulus] =>
      if call.positional.length + call.keywords.length < 2 then throw .mismatch
      e.power base exponent modulus
    | _ => throw .mismatch
  | _ =>
    match ← taken [{ name := "number" }, maybeNamed "ndigits" .none] call with
    | [value, places] =>
      match value.plain with
      | .bool b => e.roundInt b.toInt places
      | .int _ n => e.roundInt n places
      | .float _ x => e.roundDouble x places
      | _ =>
        let extra := if places.isSame .none then [] else [places]
        Run.orFault .mismatch (← e.callHook? value "__round__" extra)
    | _ => throw .mismatch

/-! ## Kinds -/

/-- One of the classes is the kind that is asked for, or one of several such kinds. -/
def isListed (classes : List Value) (kind : Value) : Run Bool := do
  match kind with
  | .tuple _ kinds => return kinds.any fun kind => classes.any (Value.isSame kind)
  | .class .. => return classes.any (Value.isSame kind)
  | _ => throw .mismatch

/-- Asks whether a value, or a class, is of a kind. -/
def kindFunction (name : String) (call : Call) : Run Value := do
  let w ← Run.world
  match ← taken [place "value", place "kind"] call with
  | [value, kind] =>
    match name, value with
    | "isinstance", value => do
      return .bool (← Run.orFault .mismatch (Check.isInstance? w value kind))
    | _, .class owner _ => do
      return .bool (← Run.orFault .mismatch (Check.isBelow? w owner kind))
    | _, .subscripted (.native origin) _ => do
      let above := ((w.orderOf origin).drop 1).map w.classValue
      return .bool (← isListed above kind)
    | _, _ => throw .mismatch
  | _ => throw .mismatch

/-! ## Modules -/

/-- The class of what has been read before. -/
def codeClass : ClassName := .builtin "code"

/-- The content of a text: statements, or an expression, in front of which blanks do not count. -/
def contentOf (isExpression : Bool) (text : String) : Run Content := do
  if text.contains Source.nulCharacter then throw .nulCharacter
  if isExpression then
    let text := String.ofList (text.toList.dropWhile fun c => c = ' ' || c = '\t')
    let value ← Run.orFault .malformed (Source.parseExpression? text)
    if value.isSound then return .expression value else throw .malformed
  else
    let statements ← Run.orFault .malformed (Source.parse? text)
    if Source.Module.isSound statements then return .statements statements else throw .malformed

/-- The text that is to run: a text, bytes, or what has been read before. -/
def sourceText (source : Value) : Run String := do
  match source.plain with
  | .text _ text => return text
  | .bytes _ bytes => Run.orFault .malformed (String.fromUTF8? ⟨bytes.toArray⟩)
  | .reference id owner =>
    match owner == codeClass, (← Run.attributes id).lookup "text" with
    | true, some (.text _ text) => return text
    | _, _ => throw .mismatch
  | _ => throw .mismatch

/-- Reads a text that is to run later. -/
def readFunction (call : Call) : Run Value := do
  match ← taken [{ name := "source" }, { name := "filename" }, { name := "mode" },
      maybeNamed "flags" (.int 0 0), maybeNamed "dont_inherit" (.bool false),
      maybeNamed "optimize" (.int 0 (-1))] call with
  | source :: _ :: mode :: _ =>
    let mode := String.ofList (← charsOf mode)
    if !(["exec", "eval", "single"].contains mode) then throw (.badValue "unknown mode")
    let text ← sourceText source
    discard <| contentOf (mode == "eval") text
    return .reference (← Run.allocate (.object [("text", ← Run.newText text)])) codeClass
  | _ => throw .mismatch

/-- Imports a module; the one at the start of its name, unless some names of it are wanted. -/
def importFunction (call : Call) : Run Value := do
  match ← taken [{ name := "name" }, maybeNamed "globals" .none, maybeNamed "locals" .none,
      maybeNamed "fromlist" (.tuple 0 []), maybeNamed "level" (.int 0 0)] call with
  | [name, _, _, wanted, _] =>
    let name := String.ofList (← charsOf name)
    if name.isEmpty then throw (.badValue "Empty module name")
    if !(← Run.world).isImportable name then throw .missingModule
    if ← e.isTrue wanted then return .module name
    return .module (String.ofList (name.toList.takeWhile (· != '.')))
  | _ => throw .mismatch

/-! ## All functions -/

/-- The functions by their families. -/
def families : List (List String × (Engine → String → Call → Run Value)) :=
  [(["getattr", "hasattr", "setattr", "delattr"], attributeFunction),
   (["len", "all", "any", "sum", "max", "min", "sorted", "iter", "next"], itemFunction),
   (["repr", "ascii", "format", "bin", "oct", "hex", "chr", "ord"], writingFunction),
   (["abs", "divmod", "pow", "round"], numberFunction),
   (["isinstance", "issubclass"], fun _ => kindFunction)]

/-- What a function of the language gives. -/
def callBuiltin (name : String) (call : Call) : Run Value := do
  let call : Call :=
    { positional := ← Run.currentAll call.positional
      keywords := ← call.keywords.mapM fun (word, value) => do return (word, ← Run.current value) }
  match families.find? (·.1.contains name) with
  | some (_, family) => family e name call
  | none =>
    match name with
    | "callable" => return .bool (← isCallable (← onlyArgument call))
    | "hash" => e.hashOf (← onlyArgument call)
    | "id" => do
      discard <| onlyArgument call
      Run.newInt 0
    | "vars" => e.attributesOf (← onlyArgument call)
    | "dir" => namesOfAttributes (← onlyArgument call)
    | "print" => return .none
    | "override" => onlyArgument call
    | "subject_factory" =>
      match ← taken [{ name := "subject_class" }] call with
      | [subject] => e.instantiate classFactoryClass { positional := [subject] }
      | _ => throw .mismatch
    | "__new__" => e.makeBare call
    | "compile" => readFunction call
    | "__import__" => e.importFunction call
    | "input" => throw (.raised (.error (← Run.freshPlace) (.builtin "EOFError") []))
    | "open" => throw (.raised (.error (← Run.freshPlace) (.builtin "FileNotFoundError") []))
    | "exit" => throw (.raised (.error (← Run.freshPlace) (.builtin "SystemExit") call.positional))
    | "quit" => throw (.raised (.error (← Run.freshPlace) (.builtin "SystemExit") call.positional))
    | _ => throw .mismatch

/-! ## Calls -/

/-- Calls a value. -/
def call (callee : Value) (arguments : Call) : Run Value := do
  match callee with
  | .function .. => e.run (← Run.orFault .mismatch (← functionOf? callee)) arguments
  | .bound receiver function => e.callFunction function (withReceiver receiver arguments)
  | .class name _ => e.instantiate name arguments
  | .builtin name => e.callBuiltin name arguments
  | .method receiver name => e.languageMethod receiver name arguments
  | .descriptor owner name => e.callDescriptor owner name arguments
  | .wrapping .static function => e.callFunction function arguments
  | .subscripted (.native origin) _ => e.instantiate origin arguments
  | .subscripted (.userClass origin) _ => e.instantiate origin arguments
  | .newType .. => onlyArgument arguments
  | .foreign ⟨_, "Quitter"⟩ _ => e.callBuiltin "exit" arguments
  | .reference _ owner =>
    match ← functionOf? callee with
    | some f => e.run f arguments
    | none =>
      match ← member? owner "__call__" with
      | some (_, found) =>
        if isFunction found then e.callFunction found (withReceiver callee arguments)
        else e.callFunction (← e.boundTo callee owner "__call__" found) arguments
      | none => throw .mismatch
  | _ => throw .mismatch

/-- Calls a method of a value. -/
def callMethod (receiver : Value) (name : String) (arguments : Call) : Run Value := do
  e.call (← e.getAttribute receiver name) arguments

end EachSubject.Engine
