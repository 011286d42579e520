import EachSubject.Check.Kind
import EachSubject.Execution.Method.Collection
import EachSubject.Execution.Method.Number
import EachSubject.Value.Hash

/-!
# Functions behind operators

Every operator of the language is also a function of the values that it works on. Such a function does
not know all other operands; it says so instead of failing. The root of all classes has functions of its
own for texts, equality and attributes, which classes may replace.
-/

namespace EachSubject.Engine

variable (e : Engine)

/-! ## Operators -/

/-- The operators by the names of their functions. -/
def operatorFunctions : List (String × String) :=
  operatorNames.map fun (op, name) => ("__" ++ name ++ "__", op)

/-- The operators by the names of their functions for the right operand. -/
def swappedFunctions : List (String × String) :=
  operatorNames.map fun (op, name) => ("__r" ++ name ++ "__", op)

/-- The comparisons by the names of their functions. -/
def comparisonFunctions : List (String × String) :=
  [("__eq__", "=="), ("__ne__", "!="), ("__lt__", "<"), ("__le__", "<="), ("__gt__", ">"),
   ("__ge__", ">=")]

/-- The unary operators by the names of their functions. -/
def unaryFunctions : List (String × String) :=
  [("__neg__", "-"), ("__pos__", "+"), ("__invert__", "~")]

/-- How much a kind of numbers holds. -/
def numberRank? : Value → Option Nat
  | .bool _ => some 0
  | .int .. => some 0
  | .float .. => some 1
  | .complex .. => some 2
  | _ => none

/-- The function that the class of the left value has for an operator or comparison knows the right
    value. -/
def knows (left right : Value) : Bool :=
  match left.plain, right.plain with
  | .text .., .text .. => true
  | .bytes .., .bytes .. => true
  | .list .., .list .. => true
  | .tuple .., .tuple .. => true
  | .dict .., .dict .. => true
  | .range .., .range .. => true
  | .slice .., .slice .. => true
  | .none, .none => true
  | a, b =>
    match numberRank? a, numberRank? b with
    | some m, some n => n ≤ m
    | _, _ =>
      ((setItems? a).isSome && (setItems? b).isSome) || a.isSame b

/-- Functions of rows of values for joining and repeating, which refuse what they do not know. -/
def refuses (receiver : Value) (name : String) : Bool :=
  let isRow := match receiver.plain with
    | .text .. => true
    | .bytes .. => true
    | .list .. => true
    | .tuple .. => true
    | _ => false
  isRow && ["__add__", "__mul__", "__rmul__"].contains name

/-- What a function gives, or the sign that it does not know its operand. -/
def orUnknown (receiver : Value) (name : String) (run : Run Value) : Run Value :=
  if refuses receiver name then run
  else tryCatch run fun fault =>
    match fault with
    | .mismatch => pure Value.notImplemented
    | fault => throw fault

/-- What the function behind an operator gives; nothing if there is no such function. -/
def operatorMethod? (receiver : Value) (name : String) (call : Call) : Run (Option Value) := do
  match comparisonFunctions.lookup name with
  | some op =>
    let other ← onlyArgument call
    if !knows receiver other then return some Value.notImplemented
    return some (← orUnknown receiver name (e.comparison op receiver other))
  | none =>
    match operatorFunctions.lookup name, swappedFunctions.lookup name with
    | some "**", _ =>
      match ← taken [place "value", maybePlace "mod" .none] call with
      | [other, modulus] =>
        if !knows receiver other then return some Value.notImplemented
        return some (← e.power receiver other modulus)
      | _ => throw .mismatch
    | some "%", _ =>
      let other ← onlyArgument call
      match receiver.plain with
      | .text .. => return some (← e.plainOperator "%" receiver other)
      | _ =>
        if !knows receiver other then return some Value.notImplemented
        return some (← orUnknown receiver name (e.plainOperator "%" receiver other))
    | some op, _ =>
      let other ← onlyArgument call
      if (numberRank? receiver.plain).isSome && !knows receiver other then
        return some Value.notImplemented
      return some (← orUnknown receiver name (e.plainOperator op receiver other))
    | none, some op =>
      let other ← onlyArgument call
      if (numberRank? receiver.plain).isSome && !knows receiver other then
        return some Value.notImplemented
      return some (← orUnknown receiver name (e.plainOperator op other receiver))
    | none, none =>
      match unaryFunctions.lookup name with
      | some op =>
        noArguments call
        return some (← e.unaryOperator op receiver)
      | none =>
        match name with
        | "__divmod__" =>
          let other ← onlyArgument call
          if !knows receiver other then return some Value.notImplemented
          return some (← e.quotientAndRest receiver other)
        | "__rdivmod__" =>
          let other ← onlyArgument call
          if !knows receiver other then return some Value.notImplemented
          return some (← e.quotientAndRest other receiver)
        | "__abs__" =>
          noArguments call
          return some (← magnitude receiver)
        | _ => return none

/-! ## Conversions -/

/-- The number that stands for a value in sets and dictionaries. -/
def hashOf (value : Value) : Run Value := do
  match ← e.callHook? value "__hash__" [] with
  | some (.int place n) => return .int place n
  | some _ => throw .mismatch
  | none =>
    if !value.isHashable then throw .mismatch
    match value with
    | .reference _ owner =>
      match ← member? owner "__hash__" with
      | some (_, .none) => throw .mismatch
      | _ => Run.newInt 0
    | value => Run.newInt ((Value.Hash.of? value).getD 0)

/-- The items of a value in reverse. -/
def reversed (value : Value) : Run Value := do
  match ← hook? value "__reversed__" with
  | some f => e.callFunction f { positional := [value] }
  | none =>
    match value with
    | .reference .. =>
      match ← e.size? value with
      | some _ =>
        let items ← e.items value
        Run.newIterator "reversed" items.reverse
      | none => throw .mismatch
    | value =>
      match (← Run.current value).plain with
      | .set .. => throw .mismatch
      | .frozenset .. => throw .mismatch
      | plain =>
        let items ← Run.orFault .mismatch (← dataItems? plain)
        let owner := match plain with
          | .list .. => "list_reverseiterator"
          | .dict .. => "dict_reversekeyiterator"
          | .range .. => "range_iterator"
          | _ => "reversed"
        Run.newIterator owner items.reverse

/-- The names of the attributes of a value, in order. -/
def namesOfAttributes (value : Value) : Run Value := do
  let w ← Run.world
  let own ← match value with
    | .class .. => pure []
    | value => do pure ((← ownAttributes value).map (·.1))
  let order := match value with
    | .class name _ => w.orderOf name
    | value => w.orderOf (w.classOf value)
  let members := order.flatMap fun above => (((w.class? above).map (·.members)).getD []).map (·.1)
  let names := (own ++ members).eraseDups.mergeSort
  Run.newList (← names.mapM Run.newText)

/-! ## Functions of all values -/

/-- The text of a value by the rules of the language alone. -/
def languageText (value : Value) : Run String := do
  match value with
  | .reference .. => objectText value
  | value => e.textOf value

/-- What a function of all values gives; nothing if there is no such function. -/
def commonMethod? (receiver : Value) (name : String) (call : Call) : Run (Option Value) := do
  match name with
  | "__repr__" => do
    noArguments call
    return some (← Run.newText (← e.languageText receiver))
  | "__str__" => do
    noArguments call
    match receiver with
    | .reference .. => return some (← Run.newText (← e.textOf receiver))
    | receiver => return some (← Run.newText (← e.plainTextOf receiver))
  | "__format__" => do
    let layout := String.ofList (← charsOf (← onlyArgument call))
    match receiver with
    | .reference .. =>
      if layout.isEmpty then return some (← Run.newText (← e.plainTextOf receiver))
      else throw .mismatch
    | receiver => return some (← Run.newText (← e.format receiver layout))
  | "__hash__" => do
    noArguments call
    match receiver with
    | .reference .. => return some (← Run.newInt 0)
    | receiver => return some (← e.hashOf receiver)
  | "__getattribute__" => do
    let asked := String.ofList (← charsOf (← onlyArgument call))
    match receiver with
    | .reference _ owner =>
      if owner = Value.functionClass then return some (← e.getAttribute receiver asked)
      else return some (← e.plainAttribute receiver asked)
    | receiver => return some (← e.getAttribute receiver asked)
  | "__setattr__" =>
    match ← taken [place "name", place "value"] call with
    | [asked, value] => do
      match receiver with
      | .class .. => e.setAttribute receiver (String.ofList (← charsOf asked)) value
      | receiver => setPlainAttribute receiver (String.ofList (← charsOf asked)) value
      return some .none
    | _ => throw .mismatch
  | "__delattr__" => do
    let asked := String.ofList (← charsOf (← onlyArgument call))
    match receiver with
    | .class .. => e.deleteAttribute receiver asked
    | receiver => deletePlainAttribute receiver asked
    return some .none
  | "__init__" =>
    match receiver with
    | .reference .. => do
      if call.positional.isEmpty && call.keywords.isEmpty then return some .none else throw .mismatch
    | .error .. => return some .none
    | _ => return none
  | "__init_subclass__" => do
    noArguments call
    return some .none
  | "__subclasshook__" => return some Value.notImplemented
  | "__dir__" => do
    noArguments call
    return some (← namesOfAttributes receiver)
  | "__bool__" => do
    noArguments call
    return some (.bool (← Run.current receiver).isTrue)
  | "__len__" => do
    noArguments call
    return some (← Run.newInt (← Run.orFault .mismatch (← e.size? receiver)))
  | "__iter__" => do
    noArguments call
    return some (← e.iterator receiver)
  | "__next__" => do
    noArguments call
    return some (← Run.orFault .exhausted (← e.nextItem receiver))
  | "__reversed__" => do
    noArguments call
    return some (← e.reversed receiver)
  | "__contains__" => return some (.bool (← e.holds receiver (← onlyArgument call)))
  | "__getitem__" => return some (← e.getItem receiver (← onlyArgument call))
  | "__setitem__" =>
    match ← taken [place "key", place "value"] call with
    | [key, value] => do
      e.setItem receiver key value
      return some .none
    | _ => throw .mismatch
  | "__delitem__" => do
    e.deleteItem receiver (← onlyArgument call)
    return some .none
  | "__call__" => return some (← e.apply receiver call)
  | "__get__" =>
    match ← taken [place "instance", maybePlace "owner" .none] call with
    | [.none, _] => return some receiver
    | [object, _] => return some (.bound object receiver)
    | _ => throw .mismatch
  | "__float__" => do
    noArguments call
    return some (← Run.newFloat (← Run.lift (Value.doubleOf receiver)))
  | _ => return none

/-- Comparing any two values: they are equal if they are one and the same, and in no order. -/
def rootComparison? (receiver : Value) (name : String) (call : Call) : Run (Option Value) := do
  match name with
  | "__eq__" => do
    let same := receiver.isSame (← onlyArgument call)
    return some (if same then .bool true else Value.notImplemented)
  | "__ne__" => do
    let same := receiver.isSame (← onlyArgument call)
    return some (if same then .bool false else Value.notImplemented)
  | name =>
    if (comparisonFunctions.lookup name).isSome then
      discard <| onlyArgument call
      return some Value.notImplemented
    else return none

/-! ## Classes -/

/-- What a function of classes gives. -/
def classMethod (owner : ClassName) (name : String) (call : Call) : Run Value := do
  let w ← Run.world
  match name with
  | "fromkeys" => e.dictFromKeys call
  | "from_bytes" => e.fromBytes call
  | "maketrans" => if owner = .builtin "str" then translationTable call else bytesTable call
  | "fromhex" => if owner = .builtin "float" then floatOfHex call else bytesOfHex call
  | "__class_getitem__" =>
    Run.lift (w.subscript (w.classValue owner) (Hint.bracketed (← onlyArgument call)))
  | "mro" => do
    noArguments call
    Run.newList ((w.orderOf owner).map w.classValue)
  | "__subclasses__" => do
    noArguments call
    Run.newList ((w.classes.reverse.filter (·.bases.contains owner)).map (·.value))
  | "__instancecheck__" => do
    let value ← onlyArgument call
    return .bool (← Run.orFault .mismatch (Check.isInstanceOfClass? w value owner))
  | "__subclasscheck__" =>
    match ← onlyArgument call with
    | .class other _ => return .bool (← Run.orFault .mismatch (Check.isSubclass? w other owner))
    | _ => throw .mismatch
  | "__prepare__" => Run.newDict []
  | "__or__" => do Run.lift (Hint.bar (w.classValue owner) (← onlyArgument call))
  | "__ror__" => do Run.lift (Hint.bar (← onlyArgument call) (w.classValue owner))
  | _ => throw .missingAttribute

/-! ## Suspended calls and errors -/

/-- What a function of a suspended call gives. -/
def suspendedMethod (receiver : Value) (name : String) (call : Call) : Run Value := do
  match name with
  | "send" =>
    match ← onlyArgument call with
    | .none => Run.orFault .exhausted (← e.nextItem receiver)
    | _ => throw .mismatch
  | "close" => do
    noArguments call
    match receiver with
    | .reference id _ => Run.setEntity id (.iterator [] none)
    | _ => pure ()
    return .none
  | "throw" =>
    match call.positional with
    | .error place owner arguments :: _ => throw (.raised (.error place owner arguments))
    | .class owner _ :: _ => throw (.raised (.error (← Run.freshPlace) owner []))
    | _ => throw .mismatch
  | _ => throw .missingAttribute

/-- What a function of errors gives. -/
def errorMethod (receiver : Value) (name : String) (call : Call) : Run Value := do
  discard <| onlyArgument call
  match name with
  | "with_traceback" => return receiver
  | "add_note" => return .none
  | _ => throw .missingAttribute

/-- What a function of properties gives. -/
def propertyMethod (receiver : Value) (name : String) (call : Call) : Run Value := do
  let f ← onlyArgument call
  match name with
  | "getter" => return .wrapping .property f
  | "setter" => return receiver
  | "deleter" => return receiver
  | _ => throw .missingAttribute

/-! ## All functions -/

/-- What a function that the language has for the values of one kind gives. -/
def kindMethod (receiver : Value) (name : String) (call : Call) : Run Value := do
  match (← Run.current receiver).plain with
  | .text _ text => e.textMethod text name call
  | .bytes _ bytes => e.bytesMethod bytes name call
  | .list place items => e.listMethod place items name call
  | .tuple _ items =>
    if name = "index" || name = "count" then e.lookFor items name call else throw .missingAttribute
  | .dict place entries => e.dictMethod place entries name call
  | .set place items =>
    e.setMethod (fun items => do
        Run.revise (.set place items)
        return .none)
      (fun items => do return .set (← Run.freshPlace) items) items name call
  | .frozenset _ items =>
    e.setMethod (fun _ => throw .missingAttribute)
      (fun items => do return .frozenset (← Run.freshPlace) items) items name call
  | .view kind dict => e.viewMethod (.view kind dict) name call
  | .range _ start stop step => rangeMethod start stop step name call
  | .slice _ start stop step => e.sliceMethod start stop step name call
  | .bool b => e.intMethod b.toInt name call
  | .int _ n => e.intMethod n name call
  | .float _ x => e.floatMethod x name call
  | .complex _ re im => complexMethod re im name call
  | .class owner _ => e.classMethod owner name call
  | .error .. => errorMethod receiver name call
  | .wrapping .property _ => propertyMethod receiver name call
  | .reference .. => e.suspendedMethod receiver name call
  | _ => throw .missingAttribute

/-- What a function that the language has for a value gives. -/
def languageMethod (receiver : Value) (name : String) (call : Call) : Run Value := do
  let receiver ← Run.current receiver
  let operator ← match receiver with
    | .reference .. => rootComparison? receiver name call
    | .class .. => rootComparison? receiver name call
    | receiver => e.operatorMethod? receiver name call
  match operator with
  | some found => return found
  | none =>
    match receiver, name with
    | .class .., "__subclasshook__" => return Value.notImplemented
    | receiver, name =>
      match ← e.commonMethod? receiver name call with
      | some found => return found
      | none => e.kindMethod receiver name call

/-- Calls a function that the language has for the values of a class, on its first argument. -/
def callDescriptor (owner : ClassName) (name : String) (call : Call) : Run Value := do
  match call.positional with
  | receiver :: rest =>
    let call := { call with positional := rest }
    if owner = objectClass then
      match ← rootComparison? receiver name call with
      | some found => return found
      | none => e.languageMethod receiver name call
    else if (Check.isInstanceOfClass? (← Run.world) receiver owner).getD false then
      e.languageMethod receiver name call
    else throw .mismatch
  | [] => throw .mismatch

end EachSubject.Engine
