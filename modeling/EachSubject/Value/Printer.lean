import EachSubject.Double.Arithmetic
import EachSubject.Double.Decimal
import EachSubject.Text.Digit
import EachSubject.Text.Quoted
import EachSubject.Value.Basic

/-!
# The text of a value

`Value.display` gives the text by which a value is shown in messages and written in source. It fails
if the value holds a marker whose text cannot be had, with the error of the first such marker.
-/

namespace EachSubject.Value

/-- The text that a sequence of one or more items has: a tuple of one item keeps its comma. -/
def tupleText : List String → String
  | [] => "()"
  | [item] => "(" ++ item ++ ",)"
  | items => "(" ++ ", ".intercalate items ++ ")"

/-- The text of a set; the empty one has no display of its own. -/
def setText : List String → String
  | [] => "set()"
  | items => "\x7b" ++ ", ".intercalate items ++ "\x7d"

/-- The text of an immutable set. -/
def frozensetText : List String → String
  | [] => "frozenset()"
  | items => "frozenset(\x7b" ++ ", ".intercalate items ++ "\x7d)"

/-- The text of a part of a complex number: whole numbers go without their point. -/
def partText (x : Double) : String :=
  let text := x.shortest.toList
  String.ofList (if ['0', '.'].isPrefixOf text.reverse then text.dropLast.dropLast else text)

/-- The text of a complex number; one whose real part is the positive zero is written without it. -/
def complexText (re im : Double) : String :=
  let sign := if im.isNegative then "" else "+"
  if re.isZero && !re.isNegative then partText im ++ "j"
  else "(" ++ partText re ++ sign ++ partText im ++ "j)"

/-- The text of a range; a step of one is not written. -/
def rangeText (start stop step : Int) : String :=
  "range(" ++ toString start ++ ", " ++ toString stop ++
  (if step = 1 then "" else ", " ++ toString step) ++ ")"

/-- A function that the language calls by itself. -/
def isHook (name : String) : Bool :=
  ['_', '_'].isPrefixOf name.toList && ['_', '_'].isPrefixOf name.toList.reverse

/-- The text of a function of a class of the language. -/
def descriptorText (owner : ClassName) (name : String) : String :=
  "<" ++ (if isHook name then "slot wrapper" else "method") ++ " '" ++ name ++ "' of '" ++
  owner.qualified ++ "' objects>"

/-- The text of an error, given the texts of its arguments. -/
def errorText (owner : ClassName) : List String → String
  | [only] => owner.simple ++ "(" ++ only ++ ")"
  | texts => owner.simple ++ tupleText texts

/-- The whole number has more digits than can be written. -/
def isTooLong (n : Int) : Bool := 14280 < Nat.log2 n.natAbs && Nat.pow 10 Text.digitLimit ≤ n.natAbs

/-- Why a whole number cannot be written. -/
def tooLongMessage : String :=
  "Exceeds the limit (" ++ toString Text.digitLimit ++
  " digits) for integer string conversion; use sys.set_int_max_str_digits() to increase the limit"

/-- The text of a whole number. -/
def intText (n : Int) : Except String String :=
  if isTooLong n then .error tooLongMessage else .ok (toString n)

/-- The text of a class. -/
def classText (name : ClassName) (isEnum : Bool) : String :=
  if name = anyClass then name.full
  else if isEnum then "<enum '" ++ name.simple ++ "'>"
  else "<class '" ++ name.qualified ++ "'>"

/-- The text of what stands before the brackets of a type. -/
def headText : TypeHead → String
  | .native origin => origin.qualified
  | .userClass origin => origin.qualified
  | .classAlias name _ => "typing." ++ name
  | .special name => "typing." ++ name

/-- The class of functions that is subscripted with a list of parameter types. -/
def callableClass : ClassName := ⟨"collections.abc", "Callable"⟩

/-- The arguments of a subscripted type are those of a callable, with the parameters spread out. -/
def isSpreadCallable (head : TypeHead) (arguments : List Value) : Bool :=
  let isCallable := match head with
    | .native origin => origin == callableClass
    | .classAlias _ origin => origin == callableClass
    | _ => false
  let packed := match arguments with
    | [.ellipsis, _] => true
    | [.paramSpec _, _] => true
    | [.list .., _] => true
    | _ => false
  isCallable && !packed

/-- The texts of a callable's parameters and result, given the texts of its arguments in a row. -/
def callableTexts (texts : List String) : List String :=
  ["[" ++ ", ".intercalate texts.dropLast ++ "]", texts.getLast?.getD ""]

/-- Is the class of nothing. -/
def isNoneClass : Value → Bool
  | .class name _ => name == noneClass
  | _ => false

mutual

/-- The text of a value, or the error of the first marker in it that has no text. -/
def display : Value → Except String String
  | none => .ok "None"
  | bool true => .ok "True"
  | bool false => .ok "False"
  | int _ value => intText value
  | float _ value => .ok value.shortest
  | text _ value => .ok (Text.quoted value)
  | bytes _ value => .ok (Text.quotedBytes value)
  | list _ items => do return "[" ++ ", ".intercalate (← displayAll items) ++ "]"
  | tuple _ items => do return tupleText (← displayAll items)
  | set _ items => do return setText (← displayAll items)
  | frozenset _ items => do return frozensetText (← displayAll items)
  | dict _ entries => do return "\x7b" ++ ", ".intercalate (← displayEntries entries) ++ "\x7d"
  | complex _ re im => .ok (complexText re im)
  | range _ start stop step => .ok (rangeText start stop step)
  | slice _ start stop step => do
    return "slice(" ++ (← display start) ++ ", " ++ (← display stop) ++ ", " ++ (← display step) ++ ")"
  | view .keys (dict _ entries) => do
    return "dict_keys([" ++ ", ".intercalate (← displayKeys entries) ++ "])"
  | view .values (dict _ entries) => do
    return "dict_values([" ++ ", ".intercalate (← displayValues entries) ++ "])"
  | view _ (dict _ entries) => do
    return "dict_items([" ++ ", ".intercalate (← displayItems entries) ++ "])"
  | view _ _ => .ok ""
  | error _ owner arguments => do return errorText owner (← displayAll arguments)
  | .class name isEnum => .ok (classText name isEnum)
  | member owner name value _ => do
    return "<" ++ owner.simple ++ "." ++ name ++ ": " ++ (← display value) ++ ">"
  | record _ owner fields => do
    return owner.path ++ "(" ++ ", ".intercalate (← displayFields fields) ++ ")"
  | marker _ (.text value) => .ok value
  | marker _ (.failure message) => .error message
  | reference _ owner => .ok ("<" ++ owner.full ++ " object>")
  | function owner name => .ok ("<function " ++ owner.path ++ "." ++ name ++ ">")
  | bound _ (function owner name) => .ok ("<bound method " ++ owner.path ++ "." ++ name ++ ">")
  | bound .. => .ok "<bound method>"
  | builtin name => .ok ("<built-in function " ++ name ++ ">")
  | method receiver name =>
    .ok ("<built-in method " ++ name ++ " of " ++ receiver.classOf.qualified ++ " object>")
  | descriptor owner name => .ok (descriptorText owner name)
  | wrapping binding _ => .ok ("<" ++ (wrapping binding none).classOf.qualified ++ ">")
  | above owner _ => .ok ("<super: <class '" ++ owner.qualified ++ "'>>")
  | .module name => .ok ("<module '" ++ name ++ "'>")
  | foreign _ shown => .ok shown
  | ellipsis => .ok "Ellipsis"
  | special name => .ok ("typing." ++ name)
  | classAlias name _ => .ok ("typing." ++ name)
  | forward value => .ok ("ForwardRef(" ++ Text.quoted value ++ ")")
  | typeVar _ name => .ok ("~" ++ name)
  | paramSpec name => .ok ("~" ++ name)
  | subscripted head arguments => do
    let texts ← displayTypes arguments
    let texts := if isSpreadCallable head arguments then callableTexts texts else texts
    return headText head ++ "[" ++ (if texts.isEmpty then "()" else ", ".intercalate texts) ++ "]"
  | union .bar members => do return " | ".intercalate (← displayAlternatives members)
  | union .subscript members => do
    match members.filter (!isNoneClass ·), members.length with
    | [_], 2 => do
      let texts ← displayTypes members
      let shown := (texts.zip members).filterMap fun (t, m) => if isNoneClass m then Option.none else some t
      return "typing.Optional[" ++ ", ".intercalate shown ++ "]"
    | _, _ => return "typing.Union[" ++ ", ".intercalate (← displayTypes members) ++ "]"
  | literalType values => do return "typing.Literal[" ++ ", ".intercalate (← displayTypes values) ++ "]"
  | annotated base metadata => do
    let base ← displayType base
    return "typing.Annotated[" ++ ", ".intercalate (base :: (← displayAll metadata)) ++ "]"
  | newType home name => .ok (home ++ "." ++ name)

/-- The text of a value inside the brackets of a type: classes go by their names. -/
def displayType : Value → Except String String
  | .class name _ => .ok name.qualified
  | ellipsis => .ok "..."
  | value => display value

def displayAll : List Value → Except String (List String)
  | [] => .ok []
  | value :: rest => do return (← display value) :: (← displayAll rest)

def displayTypes : List Value → Except String (List String)
  | [] => .ok []
  | value :: rest => do return (← displayType value) :: (← displayTypes rest)

/-- The texts of the members of a union that is written with bars. -/
def displayAlternatives : List Value → Except String (List String)
  | [] => .ok []
  | value :: rest => do
    let first ← if isNoneClass value then pure "None" else displayType value
    return first :: (← displayAlternatives rest)

def displayEntries : List (Value × Value) → Except String (List String)
  | [] => .ok []
  | (key, value) :: rest => do
    return ((← display key) ++ ": " ++ (← display value)) :: (← displayEntries rest)

def displayKeys : List (Value × Value) → Except String (List String)
  | [] => .ok []
  | (key, _) :: rest => do return (← display key) :: (← displayKeys rest)

def displayValues : List (Value × Value) → Except String (List String)
  | [] => .ok []
  | (_, value) :: rest => do return (← display value) :: (← displayValues rest)

/-- The texts of the entries of a dictionary as pairs. -/
def displayItems : List (Value × Value) → Except String (List String)
  | [] => .ok []
  | (key, value) :: rest => do
    return tupleText [← display key, ← display value] :: (← displayItems rest)

def displayFields : List (String × Value) → Except String (List String)
  | [] => .ok []
  | (name, value) :: rest => do
    return (name ++ "=" ++ (← display value)) :: (← displayFields rest)

end

end EachSubject.Value
