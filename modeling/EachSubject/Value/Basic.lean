import EachSubject.Double.Basic
import EachSubject.Text.Identifier

/-!
# Values

The objects that checks work on and that declarations mention: plain data, classes, members of
enumerations, records, and the forms of types. Data carries the place where it was made, so that two
equal values made at different places can be told apart.
-/

namespace EachSubject

/-- The full name of a class: its module, and its path inside the module. -/
structure ClassName where
  module : String
  path : String
deriving DecidableEq, Repr, Inhabited

namespace ClassName

/-- The path starts at the top of the module if it has no point. -/
def isTopLevel (name : ClassName) : Bool := !name.path.toList.contains '.'

/-- The last piece of the path. -/
def simple (name : ClassName) : String := ((Text.pathPieces name.path).getLast?).getD name.path

/-- The module whose classes go by their bare names. -/
def builtinModule : String := "builtins"

def builtin (path : String) : ClassName := ⟨builtinModule, path⟩

/-- Module and path; classes of the builtin module go by their bare path. -/
def qualified (name : ClassName) : String :=
  if name.module = builtinModule then name.path else name.module ++ "." ++ name.path

/-- Module and path, whatever the module. -/
def full (name : ClassName) : String := name.module ++ "." ++ name.path

end ClassName

/-- What an object shows when it is asked for its text: the text, or an error. -/
inductive Display where
  | text (value : String)
  | failure (message : String)
deriving DecidableEq, Repr

/-- What a subscripted type is made from. -/
inductive TypeHead where
  /-- A class that can be subscripted itself. -/
  | native (origin : ClassName)
  /-- A class with type parameters of its own. -/
  | userClass (origin : ClassName)
  /-- A name of the typing library that stands for a class. -/
  | classAlias (name : String) (origin : ClassName)
  /-- A special form of the typing library. -/
  | special (name : String)
deriving DecidableEq, Repr

/-- How a function is kept in its class. -/
inductive Binding where
  /-- Called on an object, which becomes its first argument. -/
  | onObject
  | static
  /-- Called on the class, which becomes its first argument. -/
  | onClass
  /-- Runs when the attribute is read. -/
  | property
deriving DecidableEq, Repr

/-- What is seen of a dictionary. -/
inductive DictView where
  | keys
  | values
  | items
deriving DecidableEq, Repr

/-- The two ways to write a union. -/
inductive UnionStyle where
  | subscript
  | bar
deriving DecidableEq, Repr

inductive Value where
  | none
  | bool (value : Bool)
  | int (place : Nat) (value : Int)
  | float (place : Nat) (value : Double)
  | text (place : Nat) (value : String)
  | bytes (place : Nat) (value : List UInt8)
  | list (place : Nat) (items : List Value)
  | tuple (place : Nat) (items : List Value)
  | set (place : Nat) (items : List Value)
  | frozenset (place : Nat) (items : List Value)
  | dict (place : Nat) (entries : List (Value × Value))
  | complex (place : Nat) (real imaginary : Double)
  /-- Whole numbers from the start on, up to the stop, which is not among them. -/
  | range (place : Nat) (start stop step : Int)
  | slice (place : Nat) (start stop step : Value)
  /-- What is seen of a dictionary, which may change. -/
  | view (kind : DictView) (dict : Value)
  /-- An error that can be raised. -/
  | error (place : Nat) (owner : ClassName) (arguments : List Value)
  | class (name : ClassName) (isEnum : Bool)
  /-- A member of an enumeration; `mixed` tells that it also equals its plain value. -/
  | member (owner : ClassName) (name : String) (value : Value) (mixed : Bool)
  /-- An immutable object with named fields. -/
  | record (place : Nat) (owner : ClassName) (fields : List (String × Value))
  /-- An object of which only its identity and its text are known. -/
  | marker (name : String) (display : Display)
  /-- An object that is kept in a store. -/
  | reference (id : Nat) (owner : ClassName)
  /-- The function that a class keeps under a name. -/
  | function (owner : ClassName) (name : String)
  /-- A function together with the object that it is called on. -/
  | bound (receiver function : Value)
  /-- A function of the language. -/
  | builtin (name : String)
  /-- A function that the language has for values of a class, together with the value. -/
  | method (receiver : Value) (name : String)
  /-- A function that the language has for values of a class. -/
  | descriptor (owner : ClassName) (name : String)
  /-- A function as a class is to keep it. -/
  | wrapping (binding : Binding) (function : Value)
  /-- An object, seen from the classes above one of its classes. -/
  | above (owner : ClassName) (object : Value)
  | module (name : String)
  /-- Something of which only its class and its text are known. -/
  | foreign (owner : ClassName) (text : String)
  | ellipsis
  /-- A special form of the typing library. -/
  | special (name : String)
  /-- A name of the typing library that stands for a class. -/
  | classAlias (name : String) (origin : ClassName)
  /-- A type given by its text. -/
  | forward (text : String)
  /-- A type variable of a scope. -/
  | typeVar (scope name : String)
  | paramSpec (name : String)
  | subscripted (head : TypeHead) (arguments : List Value)
  | union (style : UnionStyle) (members : List Value)
  | literalType (values : List Value)
  | annotated (base : Value) (metadata : List Value)
  | newType (module name : String)

instance : Inhabited Value := ⟨.none⟩

namespace Value

/-- The class of nothing. -/
def noneClass : ClassName := .builtin "NoneType"

/-- The class of all values. -/
def anyClass : ClassName := ⟨"typing", "Any"⟩

/-- A class as a value, enumerations aside. -/
def ofClass (name : ClassName) : Value := .class name false

/-- The class of functions. -/
def functionClass : ClassName := .builtin "function"

/-- The outcome of an operation that does not know its operand. -/
def notImplemented : Value := .foreign (.builtin "NotImplementedType") "NotImplemented"

/-- Is a class. -/
def isClass : Value → Bool
  | .class .. => true
  | _ => false

/-- Is a class of enumerations. -/
def isEnumeration : Value → Bool
  | .class _ isEnum => isEnum
  | _ => false

/-- The class of a value. -/
def classOf : Value → ClassName
  | .none => .builtin "NoneType"
  | .bool _ => .builtin "bool"
  | .int .. => .builtin "int"
  | .float .. => .builtin "float"
  | .text .. => .builtin "str"
  | .bytes .. => .builtin "bytes"
  | .list .. => .builtin "list"
  | .tuple .. => .builtin "tuple"
  | .set .. => .builtin "set"
  | .frozenset .. => .builtin "frozenset"
  | .dict .. => .builtin "dict"
  | .complex .. => .builtin "complex"
  | .range .. => .builtin "range"
  | .slice .. => .builtin "slice"
  | .view .keys _ => .builtin "dict_keys"
  | .view .values _ => .builtin "dict_values"
  | .view .items _ => .builtin "dict_items"
  | .error _ owner _ => owner
  | .class _ true => ⟨"enum", "EnumType"⟩
  | .class .. => .builtin "type"
  | .member owner .. => owner
  | .record _ owner _ => owner
  | .marker .. => .builtin "object"
  | .reference _ owner => owner
  | .function .. => functionClass
  | .bound .. => .builtin "method"
  | .builtin _ => .builtin "builtin_function_or_method"
  | .method .. => .builtin "builtin_function_or_method"
  | .descriptor .. => .builtin "method_descriptor"
  | .wrapping .static _ => .builtin "staticmethod"
  | .wrapping .onClass _ => .builtin "classmethod"
  | .wrapping .property _ => .builtin "property"
  | .wrapping .onObject _ => functionClass
  | .above .. => .builtin "super"
  | .module _ => .builtin "module"
  | .foreign owner _ => owner
  | .ellipsis => .builtin "ellipsis"
  | .special _ => ⟨"typing", "_SpecialForm"⟩
  | .classAlias "Callable" _ => ⟨"typing", "_CallableType"⟩
  | .classAlias "Tuple" _ => ⟨"typing", "_TupleType"⟩
  | .classAlias .. => ⟨"typing", "_SpecialGenericAlias"⟩
  | .forward _ => ⟨"typing", "ForwardRef"⟩
  | .typeVar .. => ⟨"typing", "TypeVar"⟩
  | .paramSpec _ => ⟨"typing", "ParamSpec"⟩
  | .subscripted (.native _) _ => ⟨"types", "GenericAlias"⟩
  | .subscripted .. => ⟨"typing", "_GenericAlias"⟩
  | .union .bar _ => ⟨"types", "UnionType"⟩
  | .union .subscript _ => ⟨"typing", "_UnionGenericAlias"⟩
  | .literalType _ => ⟨"typing", "_LiteralGenericAlias"⟩
  | .annotated .. => ⟨"typing", "_AnnotatedAlias"⟩
  | .newType .. => ⟨"typing", "NewType"⟩

/-- Items that are one and the same in both lists. -/
def sameItems (same : Value → Value → Bool) : List Value → List Value → Bool
  | [], [] => true
  | a :: as, b :: bs => same a b && sameItems same as bs
  | _, _ => false

/-- Data made at one place. The place zero is that of data made nowhere in particular. -/
def samePlace (p q : Nat) : Bool := p == q && p != 0

/-- Are one and the same object. Nothing, truth values, classes, members and markers are the same
    whenever they agree; data is the same only if it was made at the same place. -/
def isSame : Value → Value → Bool
  | none, none => true
  | bool a, bool b => a == b
  | int p a, int q b => p == q && a == b
  | float p a, float q b => p == q && a == b
  | text p a, text q b => p == q && a == b
  | bytes p a, bytes q b => p == q && a == b
  | list p _, list q _ => samePlace p q
  | tuple p as, tuple q bs => samePlace p q || (p == q && as.isEmpty && bs.isEmpty)
  | set p _, set q _ => samePlace p q
  | frozenset p _, frozenset q _ => samePlace p q
  | dict p _, dict q _ => samePlace p q
  | complex p re im, complex q re' im' => samePlace p q && re == re' && im == im'
  | range p .., range q .. => samePlace p q
  | slice p .., slice q .. => samePlace p q
  | error p .., error q .. => samePlace p q
  | .class a _, .class b _ => a == b
  | member c m _ _, member d n _ _ => c == d && m == n
  | record p _ _, record q _ _ => samePlace p q
  | marker a _, marker b _ => a == b
  | reference a _, reference b _ => a == b
  | function c m, function d n => c == d && m == n
  | builtin a, builtin b => a == b
  | descriptor c m, descriptor d n => c == d && m == n
  | .module a, .module b => a == b
  | foreign c a, foreign d b => c == d && a == b
  | ellipsis, ellipsis => true
  | special a, special b => a == b
  | classAlias a _, classAlias b _ => a == b
  | typeVar s a, typeVar t b => s == t && a == b
  | paramSpec a, paramSpec b => a == b
  | newType m a, newType n b => m == n && a == b
  | _, _ => false

end Value

end EachSubject
