import EachSubject.Fault
import EachSubject.World.Basic

/-!
# Kinds of values

A value is an instance of its own class and of the classes above it. The collection classes go by what
their instances can do: being sized, being iterated, holding items, being called.
-/

namespace EachSubject.Check

/-! ## Collections -/

/-- What holds items and can be counted and iterated. -/
def holdingKinds : List String := ["Sized", "Iterable", "Container", "Collection"]

/-- A row of values in order. -/
def sequenceKinds : List String := ["Hashable", "Reversible", "Sequence"] ++ holdingKinds

/-- What is seen of a dictionary as a set. -/
def viewKinds : List String := ["Set", "Reversible", "MappingView"] ++ holdingKinds

/-- What gives its items one by one. -/
def iteratorKinds : List String := ["Hashable", "Iterator", "Iterable"]

/-- The collection classes that a class of the language belongs to. -/
def languageKinds : List (String × List String) :=
  [("str", sequenceKinds), ("tuple", sequenceKinds), ("range", sequenceKinds),
   ("bytes", "ByteString" :: sequenceKinds),
   ("bytearray", ["Reversible", "Sequence", "MutableSequence", "ByteString"] ++ holdingKinds),
   ("memoryview", "Hashable" :: "Reversible" :: "Sequence" :: holdingKinds),
   ("list", ["Reversible", "Sequence", "MutableSequence"] ++ holdingKinds),
   ("set", ["Set", "MutableSet"] ++ holdingKinds),
   ("frozenset", ["Hashable", "Set"] ++ holdingKinds),
   ("dict", ["Reversible", "Mapping", "MutableMapping"] ++ holdingKinds),
   ("dict_keys", "KeysView" :: viewKinds), ("dict_items", "ItemsView" :: viewKinds),
   ("dict_values", ["Hashable", "Reversible", "MappingView", "ValuesView"] ++ holdingKinds),
   ("slice", []),
   ("generator", "Generator" :: iteratorKinds),
   ("coroutine", ["Hashable", "Coroutine", "Awaitable"]),
   ("async_generator", ["Hashable", "AsyncGenerator", "AsyncIterator", "AsyncIterable"]),
   ("function", ["Hashable", "Callable"]), ("method", ["Hashable", "Callable"]),
   ("builtin_function_or_method", ["Hashable", "Callable"]),
   ("method_descriptor", ["Hashable", "Callable"]), ("staticmethod", ["Hashable", "Callable"]),
   ("type", ["Hashable", "Callable"])]

/-- Classes of the language whose values give the items of other values. -/
def streamClasses : List String := ["map", "filter", "zip", "enumerate", "reversed"]

/-- The collection classes that a class of the language belongs to. -/
def kindsOfLanguage (path : String) : List String :=
  match languageKinds.lookup path with
  | some kinds => kinds
  | none =>
    if streamClasses.contains path || Library.iteratorNames.contains path then iteratorKinds
    else ["Hashable"]

/-- The methods that the values of a collection class have. -/
def requiredMethods : List (String × List String) :=
  [("Hashable", ["__hash__"]), ("Sized", ["__len__"]), ("Iterable", ["__iter__"]),
   ("Container", ["__contains__"]), ("Collection", ["__len__", "__iter__", "__contains__"]),
   ("Iterator", ["__iter__", "__next__"]), ("Reversible", ["__reversed__", "__iter__"]),
   ("Callable", ["__call__"]), ("Awaitable", ["__await__"]), ("AsyncIterable", ["__aiter__"]),
   ("AsyncIterator", ["__anext__", "__aiter__"]),
   ("Generator", ["__iter__", "__next__", "send", "throw", "close"]),
   ("Coroutine", ["__await__", "send", "throw", "close"]),
   ("AsyncGenerator", ["__aiter__", "__anext__", "asend", "athrow", "aclose"])]

/-- A class that says by itself that its values are no such collection. -/
def isDenied : Member → Bool
  | .value .none => true
  | _ => false

/-- The class has a method of the name. -/
def hasMethod (w : World) (owner : ClassName) (name : String) : Bool :=
  match w.lookup owner name with
  | some (_, member) => !isDenied member
  | none => false

/-- The values of a class belong to a collection class. -/
def isCollectionClass (w : World) (kind : String) (owner : ClassName) : Bool :=
  let order := w.orderOf owner
  order.contains ⟨Library.collectionsModule, kind⟩ ||
  (order.any fun above =>
    above.module == ClassName.builtinModule && above != objectClass &&
      (kindsOfLanguage above.path).contains kind && kind != "Hashable") ||
  match requiredMethods.lookup kind with
  | some names => names.all (hasMethod w owner)
  | none => false

/-- Classes can be called and kept in sets; one of enumerations holds its members. -/
def classKinds (isEnumeration : Bool) : List String :=
  ["Hashable", "Callable"] ++ if isEnumeration then "Reversible" :: holdingKinds else []

/-- The value belongs to a collection class. -/
def isCollection (w : World) (kind : String) (value : Value) : Bool :=
  match value with
  | .class _ isEnumeration => (classKinds isEnumeration).contains kind
  | .classAlias .. => ["Hashable", "Callable"].contains kind
  | .subscripted .. => ["Hashable", "Callable"].contains kind
  | .newType .. => ["Hashable", "Callable"].contains kind
  | .member owner _ plain true =>
    isCollectionClass w kind plain.classOf || isCollectionClass w kind owner || kind == "Hashable"
  | .reference _ owner =>
    if owner.module = ClassName.builtinModule then (kindsOfLanguage owner.path).contains kind
    else isCollectionClass w kind owner
  | value =>
    let owner := value.classOf
    if owner.module = ClassName.builtinModule then (kindsOfLanguage owner.path).contains kind
    else isCollectionClass w kind owner || kind == "Hashable"

/-- The class has a method that reports failures. -/
def canReport (w : World) (owner : ClassName) : Bool := hasMethod w owner "fail"

/-! ## Instances -/

/-- The classes that a value is an instance of. A mixed member of an enumeration is also an instance
    of the class of its plain value. -/
def classesOf (w : World) (value : Value) : List ClassName :=
  match value with
  | .member owner _ plain true => w.orderOf owner ++ w.orderOf plain.classOf
  | value => w.orderOf (w.classOf value) ++ (if value.isClass then [.builtin "type"] else [])

/-- A class that nothing is asked to be an instance of. -/
def isUnaskable (name : ClassName) : Bool := name == Value.anyClass || name == Library.protocolClass

/-- The value is an instance of a class; nothing if the class cannot be asked. -/
def isInstanceOfClass? (w : World) (value : Value) (name : ClassName) : Option Bool :=
  if isUnaskable name then none
  else if name.module = Library.collectionsModule then some (isCollection w name.path value)
  else if name = reporterClass then some (canReport w (w.classOf value))
  else some ((classesOf w value).contains name)

/-- The class is another one or below it; nothing if the other one cannot be asked. -/
def isSubclass? (w : World) (owner name : ClassName) : Option Bool :=
  if name = Value.anyClass then some (w.isSubclass owner name)
  else if name = Library.protocolClass then none
  else if name.module = Library.collectionsModule then
    some (if owner.module = ClassName.builtinModule && owner != objectClass then
        (kindsOfLanguage owner.path).contains name.path
      else isCollectionClass w name.path owner)
  else if name = reporterClass then some (canReport w owner)
  else some (w.isSubclass owner name)

mutual

/-- Some of what stands for one or more classes passes a test; nothing if it cannot be asked. The
    alternatives are tried in order, and the ones after the first that fits are not looked at. -/
def anyOf? (test : ClassName → Option Bool) (isInUnion : Bool) : Value → Option Bool
  | .class name _ => test name
  | .classAlias _ origin => test origin
  | .none => if isInUnion then test Value.noneClass else none
  | .tuple _ items => if isInUnion then none else anyOfAll? test false items
  | .union _ members => anyOfAll? test true members
  | _ => none

/-- Some of several alternatives passes a test. -/
def anyOfAll? (test : ClassName → Option Bool) (isInUnion : Bool) : List Value → Option Bool
  | [] => some false
  | kind :: rest =>
    match anyOf? test isInUnion kind with
    | some false => anyOfAll? test isInUnion rest
    | answer => answer

end

/-- The value is an instance of what stands for one or more classes. -/
def isInstance? (w : World) (value kind : Value) : Option Bool :=
  anyOf? (isInstanceOfClass? w value) false kind

/-- The class is below what stands for one or more classes. -/
def isBelow? (w : World) (owner : ClassName) (kind : Value) : Option Bool :=
  anyOf? (isSubclass? w owner) false kind

end EachSubject.Check
