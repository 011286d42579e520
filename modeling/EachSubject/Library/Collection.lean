import EachSubject.Library.Builtin
import EachSubject.World.Linearization

/-!
# Classes of the collections library

The collection classes build on each other: each adds members, some of which only the classes below it
give. What they do is known by their declarations alone.
-/

namespace EachSubject.Library

/-- What is declared of a class of the library. -/
structure Row where
  name : ClassName
  bases : List ClassName
  /-- The members that classes below have to give. -/
  missing : List String := []
  /-- Other members that the language calls by itself. -/
  hooks : List String := []
  members : List (String × Member) := []

def collectionsModule : String := "collections.abc"

def collectionClass (path : String) : ClassName := ⟨collectionsModule, path⟩

/-- The parameter that takes the object. -/
def selfParameter : FunctionParameter := { name := "self" }

/-- A parameter without a default. -/
def required (name : String) : FunctionParameter := { name }

/-- A parameter with a default. -/
def optional (name : String) (default : Value) : FunctionParameter :=
  { name, default := some default }

/-- A function that is only declared. -/
def declaredFunction (module name : String) (parameters : List FunctionParameter) : Function :=
  { module, name, parameters, body := .declared }

/-- A function of objects that is only declared. -/
def declared (module name : String) (parameters : List FunctionParameter) : String × Member :=
  (name, .function .onObject false (declaredFunction module name (selfParameter :: parameters)))

/-- A coroutine function that is only declared. -/
def declaredAsync (module name : String) (parameters : List FunctionParameter) : String × Member :=
  (name, .function .onObject false
    { declaredFunction module name (selfParameter :: parameters) with form := .coroutine })

/-- A function of the class that is only declared. -/
def declaredOnClass (module name : String) (parameters : List FunctionParameter) : String × Member :=
  (name, .function .onClass false (declaredFunction module name (required "cls" :: parameters)))

/-- A property that is only declared. -/
def declaredProperty (module name : String) : String × Member :=
  (name, .function .property false (declaredFunction module name [selfParameter]))

/-- What stands for a default that was not given. -/
def absentMark : Value := .foreign objectClass "<object object>"

/-- The parameters through which an error is thrown into a suspended function. -/
def thrown : List FunctionParameter :=
  [required "typ", optional "val" .none, optional "tb" .none]

/-- The collection classes. -/
def collectionRows : List Row :=
  let home := collectionsModule
  let row (path bases missing hooks : String) (members : List (String × Member)) : Row :=
    { name := collectionClass path
      bases := if bases = "" then [objectClass] else (words bases).map collectionClass
      missing := words missing, hooks := words hooks, members }
  [row "Awaitable" "" "__await__" "" [],
   row "Coroutine" "Awaitable" "send throw" ""
     [declared home "send" [required "value"], declared home "throw" thrown, declared home "close" []],
   row "AsyncIterable" "" "__aiter__" "" [],
   row "AsyncIterator" "AsyncIterable" "__anext__" "__aiter__" [],
   row "AsyncGenerator" "AsyncIterator" "asend athrow" "__anext__"
     [declaredAsync home "asend" [required "value"], declaredAsync home "athrow" thrown,
      declaredAsync home "aclose" []],
   row "Hashable" "" "__hash__" "" [],
   row "Iterable" "" "__iter__" "" [],
   row "Iterator" "Iterable" "__next__" "__iter__" [],
   row "Generator" "Iterator" "send throw" "__next__"
     [declared home "send" [required "value"], declared home "throw" thrown, declared home "close" []],
   row "Reversible" "Iterable" "__reversed__" "" [],
   row "Sized" "" "__len__" "" [],
   row "Container" "" "__contains__" "" [],
   row "Callable" "" "__call__" "" [],
   row "Collection" "Sized Iterable Container" "" "" [],
   row "Set" "Collection" ""
     "__le__ __lt__ __gt__ __ge__ __eq__ __and__ __rand__ __or__ __ror__ __sub__ __rsub__ __xor__
      __rxor__"
     [declaredOnClass home "_from_iterable" [required "it"],
      declared home "isdisjoint" [required "other"], declared home "_hash" []],
   row "MutableSet" "Set" "add discard" "__ior__ __iand__ __ixor__ __isub__"
     [declared home "add" [required "value"], declared home "discard" [required "value"],
      declared home "remove" [required "value"], declared home "pop" [], declared home "clear" []],
   row "Mapping" "Collection" "__getitem__" "__contains__ __eq__"
     [declared home "get" [required "key", optional "default" .none], declared home "keys" [],
      declared home "items" [], declared home "values" []],
   row "MutableMapping" "Mapping" "__setitem__ __delitem__" ""
     [("_MutableMapping__marker", .value absentMark),
      declared home "pop" [required "key", optional "default" absentMark],
      declared home "popitem" [], declared home "clear" [],
      declared home "update"
        [{ name := "other", mode := .positionalOnly, default := some (.tuple 0 []) },
         { name := "kwds", mode := .extraKeyword }],
      declared home "setdefault" [required "key", optional "default" .none]],
   row "MappingView" "Sized" "" "__init__ __len__ __repr__" [],
   row "KeysView" "MappingView Set" "" "__contains__ __iter__"
     [declaredOnClass home "_from_iterable" [required "it"]],
   row "ItemsView" "MappingView Set" "" "__contains__ __iter__"
     [declaredOnClass home "_from_iterable" [required "it"]],
   row "ValuesView" "MappingView Collection" "" "__contains__ __iter__" [],
   row "Sequence" "Reversible Collection" "__getitem__" "__iter__ __contains__ __reversed__"
     [declared home "index" [required "value", optional "start" (.int 0 0), optional "stop" .none],
      declared home "count" [required "value"]],
   row "MutableSequence" "Sequence" "__setitem__ __delitem__ insert" "__iadd__"
     [declared home "insert" [required "index", required "value"],
      declared home "append" [required "value"], declared home "clear" [], declared home "reverse" [],
      declared home "extend" [required "values"], declared home "pop" [optional "index" (.int 0 (-1))],
      declared home "remove" [required "value"]],
   row "ByteString" "Sequence" "" "" []]

/-- The parameters of a function that counts more items. -/
def counted : List FunctionParameter :=
  [{ name := "self", mode := .positionalOnly },
   { name := "iterable", mode := .positionalOnly, default := some .none },
   { name := "kwds", mode := .extraKeyword }]

/-- Classes of other modules of the library that names of the typing library stand for. -/
def otherRows : List Row :=
  let home := "collections"
  let dictClass : ClassName := .builtin "dict"
  let counting (name : String) : String × Member :=
    (name, .function .onObject false (declaredFunction home name counted))
  [{ name := ⟨home, "ChainMap"⟩, bases := [collectionClass "MutableMapping"]
     hooks := words "__init__ __missing__ __getitem__ __len__ __iter__ __contains__ __bool__ __repr__
       __copy__ __setitem__ __delitem__ __ior__ __or__ __ror__"
     members :=
       [declared home "get" [required "key", optional "default" .none],
        declaredOnClass home "fromkeys"
          [required "iterable", { name := "args", mode := .extraPositional }],
        declared home "copy" [],
        declared home "new_child" [optional "m" .none, { name := "kwargs", mode := .extraKeyword }],
        declaredProperty home "parents", declared home "popitem" [],
        declared home "pop" [required "key", { name := "args", mode := .extraPositional }],
        declared home "clear" []] },
   { name := ⟨home, "Counter"⟩, bases := [dictClass]
     hooks := words "__init__ __missing__ __delitem__ __repr__ __eq__ __ne__ __le__ __lt__ __ge__
       __gt__ __add__ __sub__ __or__ __and__ __pos__ __neg__ __iadd__ __isub__ __ior__ __iand__"
     members :=
       [declared home "total" [], declared home "most_common" [optional "n" .none],
        declared home "elements" [],
        declaredOnClass home "fromkeys" [required "iterable", optional "v" .none],
        counting "update", counting "subtract", declared home "copy" [],
        declared home "_keep_positive" []] },
   { name := ⟨home, "OrderedDict"⟩, bases := [dictClass] },
   { name := ⟨home, "defaultdict"⟩, bases := [dictClass] },
   { name := ⟨home, "deque"⟩, bases := [objectClass] },
   { name := ⟨"contextlib", "AbstractContextManager"⟩, bases := [abstractClass]
     missing := ["__exit__"], hooks := ["__enter__"] },
   { name := ⟨"contextlib", "AbstractAsyncContextManager"⟩, bases := [abstractClass]
     missing := ["__aexit__"], hooks := ["__aenter__"] },
   { name := ⟨"re", "Match"⟩, bases := [objectClass] },
   { name := ⟨"re", "Pattern"⟩, bases := [objectClass] }]

/-- The members of a class, those that it leaves to others and those that the language calls first. -/
def Row.allMembers (r : Row) : List (String × Member) :=
  let named := r.members.map (·.1)
  let hooks := (r.missing ++ r.hooks).filter fun name => !named.contains name
  hooks.map (declared r.name.module · [{ name := "args", mode := .extraPositional }]) ++ r.members

/-- The order of lookup of a class among those that are given before it. -/
def Row.order (known : List (ClassName × List ClassName)) (r : Row) : List ClassName :=
  let above := r.bases.map fun base =>
    (known.lookup base).getD
      (if base.module = ClassName.builtinModule then
        (pathsAbove base.path chainLength).map ClassName.builtin
      else [base])
  (Linearization.linearize r.name r.bases above).getD [r.name]

/-- The classes of the rows; each stands behind its bases. -/
def classesOf (rows : List Row) : List (ClassName × ClassInfo) :=
  rows.foldl (fun done r =>
    let known := done.map fun (name, info) => (name, info.order)
    done ++
    [(r.name,
      { name := r.name, bases := r.bases, order := r.order known, members := r.allMembers
        missing := r.missing })]) []

/-- The classes of the collections library and the other ones beside them. -/
def collections : List (ClassName × ClassInfo) :=
  classesOf ({ name := abstractClass, bases := [objectClass] } :: collectionRows ++ otherRows)

/-- The names of the collection classes. -/
def collectionNames : List String := collectionRows.map (·.name.path)

/-- The classes of the library through which a class below them can be subscripted. -/
def subscriptableCollections : List ClassName :=
  (words "Awaitable AsyncIterable Iterable Container Callable MappingView").map collectionClass ++
  [⟨"collections", "defaultdict"⟩, ⟨"collections", "deque"⟩, ⟨"contextlib", "AbstractContextManager"⟩,
   ⟨"contextlib", "AbstractAsyncContextManager"⟩, ⟨"re", "Match"⟩, ⟨"re", "Pattern"⟩]

end EachSubject.Library
