import EachSubject.World.Class

/-!
# Classes of the language

Every class of the language with the class above it, and the names of what its values have: functions
that take the value first, functions that take the class first, and plain attributes.
-/

namespace EachSubject.Library

/-- The words of a text, which may have several lines. -/
def words (text : String) : List String :=
  let spaced := text.toList.map fun c => if c = '\n' then ' ' else c
  ((Text.splitAtChar ' ' spaced).map String.ofList).filter (!·.isEmpty)

/-- Classes of the language that go by a name, directly below the root. -/
def namedClasses : List String :=
  words "bytearray bytes classmethod complex dict enumerate filter float frozenset int list map
    memoryview property range reversed set slice staticmethod str super tuple type zip BaseException"

/-- Classes of what gives the items of a value one by one. -/
def iteratorNames : List String :=
  words "list_iterator list_reverseiterator tuple_iterator str_iterator bytes_iterator
    range_iterator set_iterator dict_keyiterator dict_valueiterator dict_itemiterator
    dict_reversekeyiterator callable_iterator iterator"

/-- Classes of the language that no name stands for, directly below the root. -/
def namelessClasses : List String :=
  words "NoneType NotImplementedType builtin_function_or_method coroutine dict_items dict_keys
    dict_values ellipsis function generator getset_descriptor method method_descriptor module
    wrapper_descriptor" ++ iteratorNames

/-- The classes of errors below each class of errors. -/
def errorClasses : List (String × String) :=
  [("BaseException", "BaseExceptionGroup Exception GeneratorExit KeyboardInterrupt SystemExit"),
   ("Exception",
     "ArithmeticError AssertionError AttributeError BufferError EOFError ImportError LookupError
      MemoryError NameError OSError ReferenceError RuntimeError StopAsyncIteration StopIteration
      SyntaxError SystemError TypeError ValueError Warning"),
   ("ArithmeticError", "FloatingPointError OverflowError ZeroDivisionError"),
   ("Warning",
     "BytesWarning DeprecationWarning EncodingWarning FutureWarning ImportWarning
      PendingDeprecationWarning ResourceWarning RuntimeWarning SyntaxWarning UnicodeWarning
      UserWarning"),
   ("OSError",
     "BlockingIOError ChildProcessError ConnectionError FileExistsError FileNotFoundError
      InterruptedError IsADirectoryError NotADirectoryError PermissionError ProcessLookupError
      TimeoutError"),
   ("SyntaxError", "IndentationError"),
   ("LookupError", "IndexError KeyError"),
   ("ImportError", "ModuleNotFoundError"),
   ("RuntimeError", "NotImplementedError RecursionError"),
   ("NameError", "UnboundLocalError"),
   ("ValueError", "UnicodeError"),
   ("ConnectionError",
     "BrokenPipeError ConnectionAbortedError ConnectionRefusedError ConnectionResetError"),
   ("IndentationError", "TabError"),
   ("UnicodeError", "UnicodeDecodeError UnicodeEncodeError UnicodeTranslateError")]

/-- Second names of classes of errors. -/
def errorAliases : List (String × String) := [("EnvironmentError", "OSError"), ("IOError", "OSError")]

/-- The classes above a class of the language. -/
def parents (path : String) : List String :=
  if path = "bool" then ["int"]
  else if path = "ExceptionGroup" then ["BaseExceptionGroup", "Exception"]
  else if namedClasses.contains path || namelessClasses.contains path then ["object"]
  else (errorClasses.filter fun row => (words row.2).contains path).map (·.1)

/-- The class and those above it; no chain is longer than `fuel`. -/
def pathsAbove (path : String) : Nat → List String
  | 0 => []
  | fuel + 1 =>
    if path = "ExceptionGroup" then
      ["ExceptionGroup", "BaseExceptionGroup", "Exception", "BaseException", "object"]
    else path :: ((parents path).head?.map fun parent => pathsAbove parent fuel).getD []

/-- A chain of classes of the language is not longer than this. -/
def chainLength : Nat := 8

/-- Is a class of the language. -/
def isBuiltin (path : String) : Bool := path == "object" || !(parents path).isEmpty

/-- The class of the language that a name stands for. -/
def builtinNamed? (name : String) : Option String :=
  match errorAliases.lookup name with
  | some path => some path
  | none => if namelessClasses.contains name || !isBuiltin name then none else some name

/-- Functions of the language, by name. -/
def builtinFunctions : List String :=
  words "abs aiter all anext any ascii bin breakpoint callable chr compile delattr dir divmod eval
    exec format getattr globals hasattr hash hex id input isinstance issubclass iter len locals max
    min next oct open ord pow print repr round setattr sorted sum vars __build_class__ __import__"

/-- Builtin classes that can be subscripted. -/
def subscriptableBuiltins : List String :=
  words "list dict tuple set frozenset type enumerate BaseExceptionGroup"

/-- Classes that no class can be made below. -/
def finalClasses : List String :=
  "bool" :: "range" :: "slice" :: "memoryview" :: namelessClasses

/-- Classes whose objects have a form of their own: a class is below at most one of them, or below
    several of which each is below the next. -/
def solidClasses : List String :=
  words "bytearray bytes classmethod complex dict enumerate filter float frozenset int list map
    property reversed set staticmethod str super tuple type zip BaseException AttributeError
    BaseExceptionGroup ImportError NameError OSError StopIteration SyntaxError SystemExit
    UnicodeDecodeError UnicodeEncodeError UnicodeTranslateError"

/-! ## Members -/

/-- The functions that a class has for its values. -/
def valueFunctions : List (String × String) :=
  [("object",
     "__repr__ __hash__ __str__ __getattribute__ __setattr__ __delattr__ __lt__ __le__ __eq__
      __ne__ __gt__ __ge__ __init__ __format__ __dir__"),
   ("int",
     "__repr__ __hash__ __getattribute__ __lt__ __le__ __eq__ __ne__ __gt__ __ge__ __add__
      __radd__ __sub__ __rsub__ __mul__ __rmul__ __mod__ __rmod__ __divmod__ __rdivmod__ __pow__
      __rpow__ __neg__ __pos__ __abs__ __bool__ __invert__ __lshift__ __rlshift__ __rshift__
      __rrshift__ __and__ __rand__ __xor__ __rxor__ __or__ __ror__ __int__ __float__
      __floordiv__ __rfloordiv__ __truediv__ __rtruediv__ __index__ conjugate bit_length
      bit_count to_bytes as_integer_ratio __trunc__ __floor__ __ceil__ __round__ __format__"),
   ("bool", "__repr__ __and__ __rand__ __xor__ __rxor__ __or__ __ror__"),
   ("float",
     "__repr__ __hash__ __getattribute__ __lt__ __le__ __eq__ __ne__ __gt__ __ge__ __add__
      __radd__ __sub__ __rsub__ __mul__ __rmul__ __mod__ __rmod__ __divmod__ __rdivmod__ __pow__
      __rpow__ __neg__ __pos__ __abs__ __bool__ __int__ __float__ __floordiv__ __rfloordiv__
      __truediv__ __rtruediv__ conjugate __trunc__ __floor__ __ceil__ __round__ as_integer_ratio
      hex is_integer __format__"),
   ("complex",
     "__repr__ __hash__ __getattribute__ __lt__ __le__ __eq__ __ne__ __gt__ __ge__ __add__
      __radd__ __sub__ __rsub__ __mul__ __rmul__ __pow__ __rpow__ __neg__ __pos__ __abs__
      __bool__ __truediv__ __rtruediv__ conjugate __complex__ __format__"),
   ("str",
     "__repr__ __hash__ __str__ __getattribute__ __lt__ __le__ __eq__ __ne__ __gt__ __ge__
      __iter__ __mod__ __rmod__ __len__ __getitem__ __add__ __mul__ __rmul__ __contains__ encode
      replace split rsplit join capitalize casefold title center count expandtabs find partition
      index ljust lower lstrip rfind rindex rjust rstrip rpartition splitlines strip swapcase
      translate upper startswith endswith removeprefix removesuffix isascii islower isupper
      istitle isspace isdecimal isdigit isnumeric isalpha isalnum isidentifier isprintable zfill
      format format_map __format__"),
   ("bytes",
     "__repr__ __hash__ __str__ __getattribute__ __lt__ __le__ __eq__ __ne__ __gt__ __ge__
      __iter__ __mod__ __rmod__ __len__ __getitem__ __add__ __mul__ __rmul__ __contains__
      __bytes__ capitalize center count decode endswith expandtabs find hex index isalnum
      isalpha isascii isdigit islower isspace istitle isupper join ljust lower lstrip partition
      replace removeprefix removesuffix rfind rindex rjust rpartition rsplit rstrip split
      splitlines startswith strip swapcase title translate upper zfill"),
   ("list",
     "__repr__ __getattribute__ __lt__ __le__ __eq__ __ne__ __gt__ __ge__ __iter__ __init__
      __len__ __getitem__ __setitem__ __delitem__ __add__ __mul__ __rmul__ __contains__ __iadd__
      __imul__ __reversed__ clear copy append insert extend pop remove index count reverse sort"),
   ("tuple",
     "__repr__ __hash__ __getattribute__ __lt__ __le__ __eq__ __ne__ __gt__ __ge__ __iter__
      __len__ __getitem__ __add__ __mul__ __rmul__ __contains__ index count"),
   ("dict",
     "__repr__ __getattribute__ __lt__ __le__ __eq__ __ne__ __gt__ __ge__ __iter__ __init__
      __or__ __ror__ __ior__ __len__ __getitem__ __setitem__ __delitem__ __contains__ get
      setdefault pop popitem keys items values update clear copy __reversed__"),
   ("set",
     "__repr__ __getattribute__ __lt__ __le__ __eq__ __ne__ __gt__ __ge__ __iter__ __init__
      __sub__ __rsub__ __and__ __rand__ __xor__ __rxor__ __or__ __ror__ __isub__ __iand__
      __ixor__ __ior__ __len__ __contains__ add clear copy discard difference difference_update
      intersection intersection_update isdisjoint issubset issuperset pop remove
      symmetric_difference symmetric_difference_update union update"),
   ("frozenset",
     "__repr__ __hash__ __getattribute__ __lt__ __le__ __eq__ __ne__ __gt__ __ge__ __iter__
      __sub__ __rsub__ __and__ __rand__ __xor__ __rxor__ __or__ __ror__ __len__ __contains__
      copy difference intersection isdisjoint issubset issuperset symmetric_difference union"),
   ("range",
     "__repr__ __hash__ __getattribute__ __lt__ __le__ __eq__ __ne__ __gt__ __ge__ __iter__
      __bool__ __len__ __getitem__ __contains__ __reversed__ count index"),
   ("slice", "__repr__ __getattribute__ __lt__ __le__ __eq__ __ne__ __gt__ __ge__ indices"),
   ("type",
     "__repr__ __call__ __getattribute__ __setattr__ __delattr__ __init__ __or__ __ror__ mro
      __subclasses__ __instancecheck__ __subclasscheck__ __dir__"),
   ("function", "__repr__ __call__ __get__"),
   ("method",
     "__repr__ __hash__ __call__ __getattribute__ __setattr__ __delattr__ __lt__ __le__ __eq__
      __ne__ __gt__ __ge__"),
   ("builtin_function_or_method",
     "__repr__ __hash__ __call__ __getattribute__ __lt__ __le__ __eq__ __ne__ __gt__ __ge__"),
   ("NoneType", "__repr__ __bool__"),
   ("property",
     "__getattribute__ __get__ __set__ __delete__ __init__ getter setter deleter __set_name__"),
   ("staticmethod", "__repr__ __call__ __get__ __init__"),
   ("classmethod", "__repr__ __get__ __init__"),
   ("super", "__repr__ __getattribute__ __get__ __init__"),
   ("generator", "__repr__ __getattribute__ __iter__ __next__ __del__ send throw close"),
   ("coroutine", "__repr__ __getattribute__ __del__ __await__ send throw close"),
   ("dict_keys",
     "__repr__ __getattribute__ __lt__ __le__ __eq__ __ne__ __gt__ __ge__ __iter__ __sub__
      __rsub__ __and__ __rand__ __xor__ __rxor__ __or__ __ror__ __len__ __contains__ isdisjoint
      __reversed__"),
   ("dict_values", "__repr__ __getattribute__ __iter__ __len__ __reversed__"),
   ("dict_items",
     "__repr__ __getattribute__ __lt__ __le__ __eq__ __ne__ __gt__ __ge__ __iter__ __sub__
      __rsub__ __and__ __rand__ __xor__ __rxor__ __or__ __ror__ __len__ __contains__ isdisjoint
      __reversed__"),
   ("bytearray",
     "__repr__ __str__ __getattribute__ __lt__ __le__ __eq__ __ne__ __gt__ __ge__ __iter__
      __init__ __mod__ __rmod__ __len__ __getitem__ __setitem__ __delitem__ __add__ __mul__
      __rmul__ __contains__ __iadd__ __imul__ __alloc__ append capitalize center clear copy
      count decode endswith expandtabs extend find hex index insert isalnum isalpha isascii
      isdigit islower isspace istitle isupper join ljust lower lstrip partition pop remove
      replace removeprefix removesuffix reverse rfind rindex rjust rpartition rsplit rstrip
      split splitlines startswith strip swapcase title translate upper zfill"),
   ("memoryview",
     "__repr__ __hash__ __getattribute__ __lt__ __le__ __eq__ __ne__ __gt__ __ge__ __iter__
      __len__ __getitem__ __setitem__ __delitem__ release tobytes hex tolist cast toreadonly
      __enter__ __exit__"),
   ("map", "__getattribute__ __iter__ __next__"),
   ("filter", "__getattribute__ __iter__ __next__"),
   ("zip", "__getattribute__ __iter__ __next__ __setstate__"),
   ("enumerate", "__getattribute__ __iter__ __next__"),
   ("reversed", "__getattribute__ __iter__ __next__ __length_hint__ __setstate__"),
   ("BaseException",
     "__repr__ __str__ __getattribute__ __setattr__ __delattr__ __init__ __setstate__
      with_traceback add_note")]

/-- The functions that what gives items one by one has. -/
def iteratorFunctions : String := "__getattribute__ __iter__ __next__ __length_hint__ __setstate__"

/-- The functions that a class has for itself. -/
def classFunctions : List (String × String) :=
  [("object", "__subclasshook__ __init_subclass__"),
   ("int", "from_bytes"),
   ("float", "fromhex __getformat__"),
   ("str", "maketrans"),
   ("bytes", "fromhex maketrans"),
   ("list", "__class_getitem__"),
   ("tuple", "__class_getitem__"),
   ("dict", "fromkeys __class_getitem__"),
   ("set", "__class_getitem__"),
   ("frozenset", "__class_getitem__"),
   ("type", "__prepare__"),
   ("bytearray", "fromhex maketrans"),
   ("enumerate", "__class_getitem__")]

/-- The plain attributes of the values of a class. -/
def valueFields : List (String × String) :=
  [("int", "real imag numerator denominator"),
   ("float", "real imag"),
   ("complex", "real imag"),
   ("range", "start stop step"),
   ("slice", "start stop step"),
   ("type",
     "__basicsize__ __itemsize__ __flags__ __weakrefoffset__ __base__ __dictoffset__ __mro__
      __name__ __qualname__ __bases__ __module__ __abstractmethods__ __dict__ __doc__
      __text_signature__ __annotations__"),
   ("function",
     "__closure__ __doc__ __globals__ __module__ __builtins__ __code__ __defaults__
      __kwdefaults__ __annotations__ __dict__ __name__ __qualname__"),
   ("method", "__func__ __self__ __doc__"),
   ("builtin_function_or_method",
     "__module__ __doc__ __name__ __qualname__ __self__ __text_signature__"),
   ("property", "fget fset fdel __doc__ __isabstractmethod__"),
   ("staticmethod", "__func__ __wrapped__ __isabstractmethod__ __dict__"),
   ("classmethod", "__func__ __wrapped__ __isabstractmethod__ __dict__"),
   ("super", "__thisclass__ __self__ __self_class__"),
   ("generator", "gi_code __name__ __qualname__ gi_yieldfrom gi_running gi_frame gi_suspended"),
   ("coroutine",
     "cr_code cr_origin __name__ __qualname__ cr_await cr_running cr_frame cr_suspended"),
   ("dict_keys", "mapping"),
   ("dict_values", "mapping"),
   ("dict_items", "mapping"),
   ("memoryview",
     "obj nbytes readonly itemsize format ndim shape strides suboffsets c_contiguous
      f_contiguous contiguous"),
   ("BaseException", "__suppress_context__ __dict__ args __traceback__ __context__ __cause__")]

/-- Classes whose values cannot be kept in sets. -/
def unhashableClasses : List String := words "list dict set slice bytearray"

/-- The class of the plain attributes of values. -/
def fieldClass : ClassName := .builtin "getset_descriptor"

/-- A plain attribute of the values of a class, as the class has it. -/
def fieldOf (owner name : String) : Value :=
  .foreign fieldClass ("<attribute '" ++ name ++ "' of '" ++ owner ++ "' objects>")

/-- A function that a class of the language has for itself. -/
def classFunctionOf (owner : ClassName) (name : String) : Value := .method (.ofClass owner) name

/-- The members of a class of the language. -/
def builtinMembers (path : String) : List (String × Member) :=
  let own (table : List (String × String)) : List String := words ((table.lookup path).getD "")
  (if iteratorNames.contains path then words iteratorFunctions else own valueFunctions).map (fun name => (name, .value (.descriptor (.builtin path) name))) ++
  (own classFunctions).map
    (fun name => (name, .value (.wrapping .onClass (.descriptor (.builtin path) name)))) ++
  (own valueFields).map (fun name => (name, .value (fieldOf path name))) ++
  (if path = "object" then [("__new__", .value (.builtin "__new__"))] else []) ++
  (if unhashableClasses.contains path then [("__hash__", .value .none)] else [])

/-- A class of the language. -/
def builtinClass? (path : String) : Option ClassInfo :=
  if isBuiltin path then
    some {
      name := .builtin path
      bases := (parents path).map ClassName.builtin
      order := (pathsAbove path chainLength).map ClassName.builtin
      members := builtinMembers path }
  else none

end EachSubject.Library
