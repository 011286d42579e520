import EachSubject.Library.Collection

/-!
# Names of the typing library

A name of the typing library stands for a class, for a special form, or for a class of another module
under brackets.
-/

namespace EachSubject.Library

/-- How many types stand between the brackets behind a name; nothing if there may be any number. -/
abbrev Arity := Option Nat

/-- Names that stand for a collection class, of another name in one case. -/
def collectionAliases : List (String × String × Arity) :=
  [("AbstractSet", "Set", some 1), ("AsyncGenerator", "AsyncGenerator", some 2),
   ("AsyncIterable", "AsyncIterable", some 1), ("AsyncIterator", "AsyncIterator", some 1),
   ("Awaitable", "Awaitable", some 1), ("ByteString", "ByteString", some 0),
   ("Callable", "Callable", some 2), ("Collection", "Collection", some 1),
   ("Container", "Container", some 1), ("Coroutine", "Coroutine", some 3),
   ("Generator", "Generator", some 3), ("Hashable", "Hashable", some 0),
   ("ItemsView", "ItemsView", some 2), ("Iterable", "Iterable", some 1),
   ("Iterator", "Iterator", some 1), ("KeysView", "KeysView", some 1), ("Mapping", "Mapping", some 2),
   ("MappingView", "MappingView", some 1), ("MutableMapping", "MutableMapping", some 2),
   ("MutableSequence", "MutableSequence", some 1), ("MutableSet", "MutableSet", some 1),
   ("Reversible", "Reversible", some 1), ("Sequence", "Sequence", some 1), ("Sized", "Sized", some 0),
   ("ValuesView", "ValuesView", some 1)]

/-- Names that stand for a builtin class. -/
def builtinAliases : List (String × String × Arity) :=
  [("Dict", "dict", some 2), ("FrozenSet", "frozenset", some 1), ("List", "list", some 1),
   ("Set", "set", some 1), ("Tuple", "tuple", none), ("Type", "type", some 1)]

/-- Names that stand for a class of another module. -/
def otherAliases : List (String × ClassName × Arity) :=
  [("ChainMap", ⟨"collections", "ChainMap"⟩, some 2), ("Counter", ⟨"collections", "Counter"⟩, some 1),
   ("DefaultDict", ⟨"collections", "defaultdict"⟩, some 2),
   ("Deque", ⟨"collections", "deque"⟩, some 1),
   ("OrderedDict", ⟨"collections", "OrderedDict"⟩, some 2),
   ("AsyncContextManager", ⟨"contextlib", "AbstractAsyncContextManager"⟩, some 1),
   ("ContextManager", ⟨"contextlib", "AbstractContextManager"⟩, some 1),
   ("Match", ⟨"re", "Match"⟩, some 1), ("Pattern", ⟨"re", "Pattern"⟩, some 1)]

/-- The class that a name of the typing library stands for, and how many types it takes. -/
def aliasOrigin? (name : String) : Option (ClassName × Arity) :=
  ((collectionAliases.lookup name).map fun (path, arity) => (collectionClass path, arity)) <|>
  ((builtinAliases.lookup name).map fun (path, arity) => (.builtin path, arity)) <|>
  otherAliases.lookup name

/-- The special forms of the typing library. -/
def specialForms : List String :=
  words "ClassVar Concatenate Final Literal LiteralString Never NoReturn NotRequired Optional
    Required Self TypeAlias TypeGuard Union Unpack"

def protocolClass : ClassName := ⟨"typing", "Protocol"⟩

/-- The form that a type with metadata is made by. -/
def annotatedClass : ClassName := ⟨"typing", "Annotated"⟩

/-- The classes of the typing library. -/
def typingClasses : List (ClassName × ClassInfo) :=
  [(Value.anyClass, { name := Value.anyClass, order := [Value.anyClass, objectClass] }),
   (annotatedClass, { name := annotatedClass, order := [annotatedClass, objectClass] }),
   (genericClass,
     { name := genericClass, order := [genericClass, objectClass]
       members := [("_is_protocol", .value (.bool false))] }),
   (protocolClass,
     { name := protocolClass, bases := [genericClass], order := [protocolClass, genericClass, objectClass]
       members := [("_is_protocol", .value (.bool true)),
                   ("_is_runtime_protocol", .value (.bool false))] })]

/-- What a name of the typing library is. -/
def typingName? (name : String) : Option Value :=
  if name = "Text" then some (.ofClass (.builtin "str"))
  else if typingClasses.any (·.1 == ⟨"typing", name⟩) then some (.ofClass ⟨"typing", name⟩)
  else if specialForms.contains name then some (.special name)
  else (aliasOrigin? name).map fun found => .classAlias name found.1

end EachSubject.Library
