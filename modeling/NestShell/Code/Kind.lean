/-!
The built-in classes: what each is based on, the names it adds, and which of these are no methods.
-/
namespace NestShell.Code

structure Kind where
  name : String
  base : String
  own : String
  plain : String

/-- Every class follows the one it is based on. -/
def kindTable : List Kind := [
  ⟨"object", "",
    "__class__ __delattr__ __dir__ __doc__ __eq__ __format__ __ge__ __getattribute__
      __getstate__ __gt__ __hash__ __init__ __init_subclass__ __le__ __lt__ __ne__ __new__
      __reduce__ __reduce_ex__ __repr__ __setattr__ __sizeof__ __str__ __subclasshook__",
    "__class__ __doc__"⟩,
  ⟨"int", "object",
    "__abs__ __add__ __and__ __bool__ __ceil__ __divmod__ __eq__ __float__ __floor__
      __floordiv__ __format__ __ge__ __getattribute__ __getnewargs__ __gt__ __hash__ __index__
      __int__ __invert__ __le__ __lshift__ __lt__ __mod__ __mul__ __ne__ __neg__ __new__ __or__
      __pos__ __pow__ __radd__ __rand__ __rdivmod__ __repr__ __rfloordiv__ __rlshift__ __rmod__
      __rmul__ __ror__ __round__ __rpow__ __rrshift__ __rshift__ __rsub__ __rtruediv__ __rxor__
      __sizeof__ __sub__ __truediv__ __trunc__ __xor__ as_integer_ratio bit_count bit_length
      conjugate denominator from_bytes imag numerator real to_bytes",
    "denominator imag numerator real"⟩,
  ⟨"bool", "int",
    "__and__ __new__ __or__ __rand__ __repr__ __ror__ __rxor__ __xor__",
    ""⟩,
  ⟨"float", "object",
    "__abs__ __add__ __bool__ __ceil__ __divmod__ __eq__ __float__ __floor__ __floordiv__
      __format__ __ge__ __getattribute__ __getformat__ __getnewargs__ __gt__ __hash__ __int__
      __le__ __lt__ __mod__ __mul__ __ne__ __neg__ __new__ __pos__ __pow__ __radd__ __rdivmod__
      __repr__ __rfloordiv__ __rmod__ __rmul__ __round__ __rpow__ __rsub__ __rtruediv__ __sub__
      __truediv__ __trunc__ as_integer_ratio conjugate fromhex hex imag is_integer real",
    "imag real"⟩,
  ⟨"complex", "object",
    "__abs__ __add__ __bool__ __complex__ __eq__ __format__ __ge__ __getattribute__
      __getnewargs__ __gt__ __hash__ __le__ __lt__ __mul__ __ne__ __neg__ __new__ __pos__
      __pow__ __radd__ __repr__ __rmul__ __rpow__ __rsub__ __rtruediv__ __sub__ __truediv__
      conjugate imag real",
    "imag real"⟩,
  ⟨"str", "object",
    "__add__ __contains__ __eq__ __format__ __ge__ __getattribute__ __getitem__ __getnewargs__
      __gt__ __hash__ __iter__ __le__ __len__ __lt__ __mod__ __mul__ __ne__ __new__ __repr__
      __rmod__ __rmul__ __sizeof__ __str__ capitalize casefold center count encode endswith
      expandtabs find format format_map index isalnum isalpha isascii isdecimal isdigit
      isidentifier islower isnumeric isprintable isspace istitle isupper join ljust lower lstrip
      maketrans partition removeprefix removesuffix replace rfind rindex rjust rpartition rsplit
      rstrip split splitlines startswith strip swapcase title translate upper zfill",
    ""⟩,
  ⟨"bytes", "object",
    "__add__ __bytes__ __contains__ __eq__ __ge__ __getattribute__ __getitem__ __getnewargs__
      __gt__ __hash__ __iter__ __le__ __len__ __lt__ __mod__ __mul__ __ne__ __new__ __repr__
      __rmod__ __rmul__ __str__ capitalize center count decode endswith expandtabs find fromhex
      hex index isalnum isalpha isascii isdigit islower isspace istitle isupper join ljust lower
      lstrip maketrans partition removeprefix removesuffix replace rfind rindex rjust rpartition
      rsplit rstrip split splitlines startswith strip swapcase title translate upper zfill",
    ""⟩,
  ⟨"bytearray", "object",
    "__add__ __alloc__ __contains__ __delitem__ __eq__ __ge__ __getattribute__ __getitem__
      __gt__ __hash__ __iadd__ __imul__ __init__ __iter__ __le__ __len__ __lt__ __mod__ __mul__
      __ne__ __new__ __reduce__ __reduce_ex__ __repr__ __rmod__ __rmul__ __setitem__ __sizeof__
      __str__ append capitalize center clear copy count decode endswith expandtabs extend find
      fromhex hex index insert isalnum isalpha isascii isdigit islower isspace istitle isupper
      join ljust lower lstrip maketrans partition pop remove removeprefix removesuffix replace
      reverse rfind rindex rjust rpartition rsplit rstrip split splitlines startswith strip
      swapcase title translate upper zfill",
    "__hash__"⟩,
  ⟨"list", "object",
    "__add__ __class_getitem__ __contains__ __delitem__ __eq__ __ge__ __getattribute__
      __getitem__ __gt__ __hash__ __iadd__ __imul__ __init__ __iter__ __le__ __len__ __lt__
      __mul__ __ne__ __new__ __repr__ __reversed__ __rmul__ __setitem__ __sizeof__ append clear
      copy count extend index insert pop remove reverse sort",
    "__hash__"⟩,
  ⟨"dict", "object",
    "__class_getitem__ __contains__ __delitem__ __eq__ __ge__ __getattribute__ __getitem__
      __gt__ __hash__ __init__ __ior__ __iter__ __le__ __len__ __lt__ __ne__ __new__ __or__
      __repr__ __reversed__ __ror__ __setitem__ __sizeof__ clear copy fromkeys get items keys
      pop popitem setdefault update values",
    "__hash__"⟩,
  ⟨"tuple", "object",
    "__add__ __class_getitem__ __contains__ __eq__ __ge__ __getattribute__ __getitem__
      __getnewargs__ __gt__ __hash__ __iter__ __le__ __len__ __lt__ __mul__ __ne__ __new__
      __repr__ __rmul__ count index",
    ""⟩,
  ⟨"set", "object",
    "__and__ __class_getitem__ __contains__ __eq__ __ge__ __getattribute__ __gt__ __hash__
      __iand__ __init__ __ior__ __isub__ __iter__ __ixor__ __le__ __len__ __lt__ __ne__ __new__
      __or__ __rand__ __reduce__ __repr__ __ror__ __rsub__ __rxor__ __sizeof__ __sub__ __xor__
      add clear copy difference difference_update discard intersection intersection_update
      isdisjoint issubset issuperset pop remove symmetric_difference symmetric_difference_update
      union update",
    "__hash__"⟩,
  ⟨"frozenset", "object",
    "__and__ __class_getitem__ __contains__ __eq__ __ge__ __getattribute__ __gt__ __hash__
      __iter__ __le__ __len__ __lt__ __ne__ __new__ __or__ __rand__ __reduce__ __repr__ __ror__
      __rsub__ __rxor__ __sizeof__ __sub__ __xor__ copy difference intersection isdisjoint
      issubset issuperset symmetric_difference union",
    ""⟩,
  ⟨"range", "object",
    "__bool__ __contains__ __eq__ __ge__ __getattribute__ __getitem__ __gt__ __hash__ __iter__
      __le__ __len__ __lt__ __ne__ __new__ __reduce__ __repr__ __reversed__ count index start
      step stop",
    "start step stop"⟩,
  ⟨"slice", "object",
    "__eq__ __ge__ __getattribute__ __gt__ __hash__ __le__ __lt__ __ne__ __new__ __reduce__
      __repr__ indices start step stop",
    "__hash__ start step stop"⟩,
  ⟨"type", "object",
    "__abstractmethods__ __annotations__ __base__ __bases__ __basicsize__ __call__ __delattr__
      __dict__ __dictoffset__ __dir__ __flags__ __getattribute__ __init__ __instancecheck__
      __itemsize__ __module__ __mro__ __name__ __new__ __or__ __prepare__ __qualname__ __repr__
      __ror__ __setattr__ __sizeof__ __subclasscheck__ __subclasses__ __text_signature__
      __weakrefoffset__ mro",
    "__abstractmethods__ __annotations__ __base__ __bases__ __basicsize__ __dict__
      __dictoffset__ __flags__ __itemsize__ __module__ __mro__ __name__ __qualname__
      __text_signature__ __weakrefoffset__"⟩,
  ⟨"super", "object",
    "__get__ __getattribute__ __init__ __new__ __repr__ __self__ __self_class__ __thisclass__",
    "__self__ __self_class__ __thisclass__"⟩,
  ⟨"function", "object",
    "__annotations__ __builtins__ __call__ __closure__ __code__ __defaults__ __dict__ __get__
      __globals__ __kwdefaults__ __module__ __name__ __new__ __qualname__ __repr__",
    "__annotations__ __builtins__ __closure__ __code__ __defaults__ __dict__ __globals__
      __kwdefaults__ __module__ __name__ __qualname__"⟩,
  ⟨"builtin_function_or_method", "object",
    "__call__ __eq__ __ge__ __getattribute__ __gt__ __hash__ __le__ __lt__ __module__ __name__
      __ne__ __qualname__ __reduce__ __repr__ __self__ __text_signature__",
    "__module__ __name__ __qualname__ __self__ __text_signature__"⟩,
  ⟨"method", "object",
    "__call__ __delattr__ __eq__ __func__ __ge__ __getattribute__ __gt__ __hash__ __le__ __lt__
      __ne__ __new__ __reduce__ __repr__ __self__ __setattr__",
    "__func__ __self__"⟩,
  ⟨"module", "object",
    "__annotations__ __delattr__ __dict__ __dir__ __getattribute__ __init__ __new__ __repr__
      __setattr__",
    "__annotations__ __dict__"⟩,
  ⟨"NoneType", "object",
    "__bool__ __new__ __repr__",
    ""⟩,
  ⟨"ellipsis", "object",
    "__getattribute__ __new__ __reduce__ __repr__",
    ""⟩,
  ⟨"NotImplementedType", "object",
    "__bool__ __new__ __reduce__ __repr__",
    ""⟩,
  ⟨"property", "object",
    "__delete__ __get__ __getattribute__ __init__ __isabstractmethod__ __new__ __set__
      __set_name__ deleter fdel fget fset getter setter",
    "__isabstractmethod__ fdel fget fset"⟩,
  ⟨"classmethod", "object",
    "__dict__ __func__ __get__ __init__ __isabstractmethod__ __new__ __repr__ __wrapped__",
    "__dict__ __func__ __isabstractmethod__ __wrapped__"⟩,
  ⟨"staticmethod", "object",
    "__call__ __dict__ __func__ __get__ __init__ __isabstractmethod__ __new__ __repr__
      __wrapped__",
    "__dict__ __func__ __isabstractmethod__ __wrapped__"⟩,
  ⟨"partial", "object",
    "__call__ __class_getitem__ __delattr__ __dict__ __getattribute__ __module__ __new__
      __reduce__ __repr__ __setattr__ __setstate__ __vectorcalloffset__ args func keywords",
    "__dict__ __module__ __vectorcalloffset__ args func keywords"⟩,
  ⟨"Continue", "object",
    "__annotations__ __dataclass_fields__ __dataclass_params__ __delattr__ __dict__ __eq__
      __hash__ __init__ __match_args__ __module__ __repr__ __setattr__ __weakref__ has_value
      value",
    "__annotations__ __dataclass_fields__ __dataclass_params__ __dict__ __match_args__
      __module__ __weakref__ has_value value"⟩,
  ⟨"Skip", "object",
    "__annotations__ __dataclass_fields__ __dataclass_params__ __delattr__ __dict__ __eq__
      __hash__ __init__ __match_args__ __module__ __repr__ __setattr__ __weakref__",
    "__annotations__ __dataclass_fields__ __dataclass_params__ __dict__ __match_args__
      __module__ __weakref__"⟩,
  ⟨"Breakout", "object",
    "__annotations__ __dataclass_fields__ __dataclass_params__ __delattr__ __dict__ __eq__
      __hash__ __init__ __match_args__ __module__ __repr__ __setattr__ __weakref__ value",
    "__annotations__ __dataclass_fields__ __dataclass_params__ __dict__ __match_args__
      __module__ __weakref__ value"⟩,
  ⟨"_NoValue", "object",
    "__bool__ __dict__ __module__ __new__ __repr__ __weakref__ _instance",
    "__dict__ __module__ __weakref__ _instance"⟩,
  ⟨"dict_keys", "object",
    "__and__ __contains__ __eq__ __ge__ __getattribute__ __gt__ __hash__ __iter__ __le__
      __len__ __lt__ __ne__ __or__ __rand__ __repr__ __reversed__ __ror__ __rsub__ __rxor__
      __sub__ __xor__ isdisjoint mapping",
    "__hash__ mapping"⟩,
  ⟨"dict_values", "object",
    "__getattribute__ __iter__ __len__ __repr__ __reversed__ mapping",
    "mapping"⟩,
  ⟨"dict_items", "object",
    "__and__ __contains__ __eq__ __ge__ __getattribute__ __gt__ __hash__ __iter__ __le__
      __len__ __lt__ __ne__ __or__ __rand__ __repr__ __reversed__ __ror__ __rsub__ __rxor__
      __sub__ __xor__ isdisjoint mapping",
    "__hash__ mapping"⟩,
  ⟨"method_descriptor", "object",
    "__call__ __get__ __getattribute__ __name__ __objclass__ __qualname__ __reduce__ __repr__
      __text_signature__",
    "__name__ __objclass__ __qualname__ __text_signature__"⟩,
  ⟨"method-wrapper", "object",
    "__call__ __eq__ __ge__ __getattribute__ __gt__ __hash__ __le__ __lt__ __name__ __ne__
      __objclass__ __qualname__ __reduce__ __repr__ __self__ __text_signature__",
    "__name__ __objclass__ __qualname__ __self__ __text_signature__"⟩,
  ⟨"list_iterator", "object",
    "__getattribute__ __iter__ __length_hint__ __next__ __reduce__ __setstate__",
    ""⟩,
  ⟨"generator", "object",
    "__del__ __getattribute__ __iter__ __name__ __next__ __qualname__ __repr__ __sizeof__ close
      gi_code gi_frame gi_running gi_suspended gi_yieldfrom send throw",
    "__name__ __qualname__ gi_code gi_frame gi_running gi_suspended gi_yieldfrom"⟩,
  ⟨"zip", "object",
    "__getattribute__ __iter__ __new__ __next__ __reduce__ __setstate__",
    ""⟩,
  ⟨"map", "object",
    "__getattribute__ __iter__ __new__ __next__ __reduce__",
    ""⟩,
  ⟨"filter", "object",
    "__getattribute__ __iter__ __new__ __next__ __reduce__",
    ""⟩,
  ⟨"enumerate", "object",
    "__class_getitem__ __getattribute__ __iter__ __new__ __next__ __reduce__",
    ""⟩,
  ⟨"reversed", "object",
    "__getattribute__ __iter__ __length_hint__ __new__ __next__ __reduce__ __setstate__",
    ""⟩,
  ⟨"BaseException", "object",
    "__cause__ __context__ __delattr__ __dict__ __getattribute__ __reduce__ __repr__
      __setattr__ __setstate__ __str__ __suppress_context__ __traceback__ add_note args
      with_traceback",
    "__cause__ __context__ __dict__ __suppress_context__ __traceback__ args"⟩,
  ⟨"BaseExceptionGroup", "BaseException",
    "__class_getitem__ __str__ derive exceptions message split subgroup",
    "exceptions message"⟩,
  ⟨"Exception", "BaseException",
    "",
    ""⟩,
  ⟨"GeneratorExit", "BaseException",
    "",
    ""⟩,
  ⟨"KeyboardInterrupt", "BaseException",
    "",
    ""⟩,
  ⟨"SystemExit", "BaseException",
    "code",
    "code"⟩,
  ⟨"ArithmeticError", "Exception",
    "",
    ""⟩,
  ⟨"AssertionError", "Exception",
    "",
    ""⟩,
  ⟨"AttributeError", "Exception",
    "__str__ name obj",
    "name obj"⟩,
  ⟨"BufferError", "Exception",
    "",
    ""⟩,
  ⟨"EOFError", "Exception",
    "",
    ""⟩,
  ⟨"ImportError", "Exception",
    "__reduce__ __str__ msg name path",
    "msg name path"⟩,
  ⟨"LookupError", "Exception",
    "",
    ""⟩,
  ⟨"MemoryError", "Exception",
    "",
    ""⟩,
  ⟨"NameError", "Exception",
    "__str__ name",
    "name"⟩,
  ⟨"OSError", "Exception",
    "__reduce__ __str__ characters_written errno filename filename2 strerror",
    "characters_written errno filename filename2 strerror"⟩,
  ⟨"ReferenceError", "Exception",
    "",
    ""⟩,
  ⟨"RuntimeError", "Exception",
    "",
    ""⟩,
  ⟨"StopAsyncIteration", "Exception",
    "",
    ""⟩,
  ⟨"StopIteration", "Exception",
    "value",
    "value"⟩,
  ⟨"SyntaxError", "Exception",
    "__str__ end_lineno end_offset filename lineno msg offset print_file_and_line text",
    "end_lineno end_offset filename lineno msg offset print_file_and_line text"⟩,
  ⟨"SystemError", "Exception",
    "",
    ""⟩,
  ⟨"TypeError", "Exception",
    "",
    ""⟩,
  ⟨"ValueError", "Exception",
    "",
    ""⟩,
  ⟨"Warning", "Exception",
    "",
    ""⟩,
  ⟨"FrozenInstanceError", "AttributeError",
    "__module__ __weakref__",
    "__module__ __weakref__"⟩,
  ⟨"BlockingIOError", "OSError",
    "",
    ""⟩,
  ⟨"BytesWarning", "Warning",
    "",
    ""⟩,
  ⟨"ChildProcessError", "OSError",
    "",
    ""⟩,
  ⟨"ConnectionError", "OSError",
    "",
    ""⟩,
  ⟨"DeprecationWarning", "Warning",
    "",
    ""⟩,
  ⟨"EncodingWarning", "Warning",
    "",
    ""⟩,
  ⟨"ExceptionGroup", "BaseExceptionGroup",
    "",
    ""⟩,
  ⟨"FileExistsError", "OSError",
    "",
    ""⟩,
  ⟨"FileNotFoundError", "OSError",
    "",
    ""⟩,
  ⟨"FloatingPointError", "ArithmeticError",
    "",
    ""⟩,
  ⟨"FutureWarning", "Warning",
    "",
    ""⟩,
  ⟨"ImportWarning", "Warning",
    "",
    ""⟩,
  ⟨"IndentationError", "SyntaxError",
    "",
    ""⟩,
  ⟨"IndexError", "LookupError",
    "",
    ""⟩,
  ⟨"InterruptedError", "OSError",
    "",
    ""⟩,
  ⟨"IsADirectoryError", "OSError",
    "",
    ""⟩,
  ⟨"KeyError", "LookupError",
    "__str__",
    ""⟩,
  ⟨"ModuleNotFoundError", "ImportError",
    "",
    ""⟩,
  ⟨"NotADirectoryError", "OSError",
    "",
    ""⟩,
  ⟨"NotImplementedError", "RuntimeError",
    "",
    ""⟩,
  ⟨"OverflowError", "ArithmeticError",
    "",
    ""⟩,
  ⟨"PendingDeprecationWarning", "Warning",
    "",
    ""⟩,
  ⟨"PermissionError", "OSError",
    "",
    ""⟩,
  ⟨"ProcessLookupError", "OSError",
    "",
    ""⟩,
  ⟨"RecursionError", "RuntimeError",
    "",
    ""⟩,
  ⟨"ResourceWarning", "Warning",
    "",
    ""⟩,
  ⟨"RuntimeWarning", "Warning",
    "",
    ""⟩,
  ⟨"SyntaxWarning", "Warning",
    "",
    ""⟩,
  ⟨"TimeoutError", "OSError",
    "",
    ""⟩,
  ⟨"UnboundLocalError", "NameError",
    "",
    ""⟩,
  ⟨"UnicodeError", "ValueError",
    "",
    ""⟩,
  ⟨"UnicodeWarning", "Warning",
    "",
    ""⟩,
  ⟨"UserWarning", "Warning",
    "",
    ""⟩,
  ⟨"ZeroDivisionError", "ArithmeticError",
    "",
    ""⟩,
  ⟨"BrokenPipeError", "ConnectionError",
    "",
    ""⟩,
  ⟨"ConnectionAbortedError", "ConnectionError",
    "",
    ""⟩,
  ⟨"ConnectionRefusedError", "ConnectionError",
    "",
    ""⟩,
  ⟨"ConnectionResetError", "ConnectionError",
    "",
    ""⟩,
  ⟨"TabError", "IndentationError",
    "",
    ""⟩,
  ⟨"UnicodeDecodeError", "UnicodeError",
    "__str__ encoding end object reason start",
    "encoding end object reason start"⟩,
  ⟨"UnicodeEncodeError", "UnicodeError",
    "__str__ encoding end object reason start",
    "encoding end object reason start"⟩,
  ⟨"UnicodeTranslateError", "UnicodeError",
    "__str__ encoding end object reason start",
    "encoding end object reason start"⟩]

end NestShell.Code
