/-!
What the built-in functions, classes and methods say of themselves: their parameters and their
description.

A parameter is written as a letter and its name: `r` required, `o` optional, `k` only by name, `*`
all further positions, `^` all further names. A callable without a list has unknown parameters.
-/
namespace NestShell.Code

structure ManualEntry where
  name : String
  params : Option String
  text : String

def manual : List ManualEntry := [
  ⟨"ArithmeticError", none,
    "Base class for arithmetic errors."⟩,
  ⟨"AssertionError", none,
    "Assertion failed."⟩,
  ⟨"AttributeError", none,
    "Attribute not found."⟩,
  ⟨"BaseException", none,
    "Common base class for all exceptions"⟩,
  ⟨"BaseExceptionGroup", none,
    "A combination of multiple unrelated exceptions."⟩,
  ⟨"BlockingIOError", none,
    "I/O operation would block."⟩,
  ⟨"BrokenPipeError", none,
    "Broken pipe."⟩,
  ⟨"BufferError", none,
    "Buffer error."⟩,
  ⟨"BytesWarning", none,
    "Base class for warnings about bytes and buffer related problems, mostly\nrelated to " ++
      "conversion from str or comparing to str."⟩,
  ⟨"ChildProcessError", none,
    "Child process error."⟩,
  ⟨"ConnectionAbortedError", none,
    "Connection aborted."⟩,
  ⟨"ConnectionError", none,
    "Connection error."⟩,
  ⟨"ConnectionRefusedError", none,
    "Connection refused."⟩,
  ⟨"ConnectionResetError", none,
    "Connection reset."⟩,
  ⟨"DeprecationWarning", none,
    "Base class for warnings about deprecated features."⟩,
  ⟨"EOFError", none,
    "Read beyond end of file."⟩,
  ⟨"EncodingWarning", none,
    "Base class for warnings about encodings."⟩,
  ⟨"Exception", none,
    "Common base class for all non-exit exceptions."⟩,
  ⟨"ExceptionGroup", none,
    "A combination of multiple unrelated exceptions."⟩,
  ⟨"FileExistsError", none,
    "File already exists."⟩,
  ⟨"FileNotFoundError", none,
    "File not found."⟩,
  ⟨"FloatingPointError", none,
    "Floating point operation failed."⟩,
  ⟨"FutureWarning", none,
    "Base class for warnings about constructs that will change semantically\nin the future."⟩,
  ⟨"GeneratorExit", none,
    "Request that a generator exit."⟩,
  ⟨"ImportError", none,
    "Import can't find module, or can't find name in module."⟩,
  ⟨"ImportWarning", none,
    "Base class for warnings about probable mistakes in module imports"⟩,
  ⟨"IndentationError", none,
    "Improper indentation."⟩,
  ⟨"IndexError", none,
    "Sequence index out of range."⟩,
  ⟨"InterruptedError", none,
    "Interrupted by signal."⟩,
  ⟨"IsADirectoryError", none,
    "Operation doesn't work on directories."⟩,
  ⟨"KeyError", none,
    "Mapping key not found."⟩,
  ⟨"KeyboardInterrupt", none,
    "Program interrupted by user."⟩,
  ⟨"LookupError", none,
    "Base class for lookup errors."⟩,
  ⟨"MemoryError", none,
    "Out of memory."⟩,
  ⟨"ModuleNotFoundError", none,
    "Module not found."⟩,
  ⟨"NameError", none,
    "Name not found globally."⟩,
  ⟨"NotADirectoryError", none,
    "Operation only works on directories."⟩,
  ⟨"NotImplementedError", none,
    "Method or function hasn't been implemented yet."⟩,
  ⟨"OSError", none,
    "Base class for I/O related errors."⟩,
  ⟨"OverflowError", none,
    "Result too large to be represented."⟩,
  ⟨"PendingDeprecationWarning", none,
    "Base class for warnings about features which will be deprecated\nin the future."⟩,
  ⟨"PermissionError", none,
    "Not enough permissions."⟩,
  ⟨"ProcessLookupError", none,
    "Process not found."⟩,
  ⟨"RecursionError", none,
    "Recursion limit exceeded."⟩,
  ⟨"ReferenceError", none,
    "Weak ref proxy used after referent went away."⟩,
  ⟨"ResourceWarning", none,
    "Base class for warnings about resource usage."⟩,
  ⟨"RuntimeError", none,
    "Unspecified run-time error."⟩,
  ⟨"RuntimeWarning", none,
    "Base class for warnings about dubious runtime behavior."⟩,
  ⟨"StopAsyncIteration", none,
    "Signal the end from iterator.__anext__()."⟩,
  ⟨"StopIteration", none,
    "Signal the end from iterator.__next__()."⟩,
  ⟨"SyntaxError", none,
    "Invalid syntax."⟩,
  ⟨"SyntaxWarning", none,
    "Base class for warnings about dubious syntax."⟩,
  ⟨"SystemError", none,
    "Internal error in the Python interpreter.\n\nPlease report this to the Python maintainer, " ++
      "along with the traceback,\nthe Python version, and the hardware/OS platform and version."⟩,
  ⟨"SystemExit", none,
    "Request to exit from the interpreter."⟩,
  ⟨"TabError", none,
    "Improper mixture of spaces and tabs."⟩,
  ⟨"TimeoutError", none,
    "Timeout expired."⟩,
  ⟨"TypeError", none,
    "Inappropriate argument type."⟩,
  ⟨"UnboundLocalError", none,
    "Local name referenced but not bound to a value."⟩,
  ⟨"UnicodeDecodeError", none,
    "Unicode decoding error."⟩,
  ⟨"UnicodeEncodeError", none,
    "Unicode encoding error."⟩,
  ⟨"UnicodeError", none,
    "Unicode related error."⟩,
  ⟨"UnicodeTranslateError", none,
    "Unicode translation error."⟩,
  ⟨"UnicodeWarning", none,
    "Base class for warnings about Unicode related problems, mostly\nrelated to conversion " ++
      "problems."⟩,
  ⟨"UserWarning", none,
    "Base class for warnings generated by user code."⟩,
  ⟨"ValueError", none,
    "Inappropriate argument value (of correct type)."⟩,
  ⟨"Warning", none,
    "Base class for warning categories."⟩,
  ⟨"ZeroDivisionError", none,
    "Second argument to a division or modulo operation was zero."⟩,
  ⟨"__build_class__", none,
    "__build_class__(func, name, /, *bases, [metaclass], **kwds) -> class\n\nInternal helper " ++
      "function used by the class statement."⟩,
  ⟨"__import__", some "rname oglobals olocals ofromlist olevel",
    "Import a module.\n\nBecause this function is meant for use by the Python\ninterpreter and " ++
      "not for general use, it is better to use\nimportlib.import_module() to programmatically " ++
      "import a module.\n\nThe globals argument is only used to determine the context;\nthey are " ++
      "not modified.  The locals argument is unused.  The fromlist\nshould be a list of names to " ++
      "emulate ``from name import ...``, or an\nempty list to emulate ``import name``.\nWhen " ++
      "importing a module from a package, note that __import__('A.B', ...)\nreturns package A " ++
      "when fromlist is empty, but its submodule B when\nfromlist is not empty.  The level " ++
      "argument is used to determine whether to\nperform absolute or relative imports: 0 is " ++
      "absolute, while a positive number\nis the number of parent directories to search relative " ++
      "to the current module."⟩,
  ⟨"abs", some "rx",
    "Return the absolute value of the argument."⟩,
  ⟨"aiter", some "rasync_iterable",
    "Return an AsyncIterator for an AsyncIterable object."⟩,
  ⟨"all", some "riterable",
    "Return True if bool(x) is True for all values x in the iterable.\n\nIf the iterable is " ++
      "empty, return True."⟩,
  ⟨"anext", none,
    "async anext(aiterator[, default])\n\nReturn the next item from the async iterator.  If " ++
      "default is given and the async\niterator is exhausted, it is returned instead of raising " ++
      "StopAsyncIteration."⟩,
  ⟨"any", some "riterable",
    "Return True if bool(x) is True for any x in the iterable.\n\nIf the iterable is empty, " ++
      "return False."⟩,
  ⟨"ascii", some "robj",
    "Return an ASCII-only representation of an object.\n\nAs repr(), return a string containing " ++
      "a printable representation of an\nobject, but escape the non-ASCII characters in the " ++
      "string returned by\nrepr() using \\\\x, \\\\u or \\\\U escapes. This generates a string " ++
      "similar\nto that returned by repr() in Python 2."⟩,
  ⟨"bin", some "rnumber",
    "Return the binary representation of an integer.\n\n>>> " ++
      "bin(2796202)\n'0b1010101010101010101010'"⟩,
  ⟨"bool", none,
    "bool(x) -> bool\n\nReturns True when the argument x is true, False otherwise.\nThe " ++
      "builtins True and False are the only two instances of the class bool.\nThe class bool is a " ++
      "subclass of the class int, and cannot be subclassed."⟩,
  ⟨"breakpoint", none,
    "breakpoint(*args, **kws)\n\nCall sys.breakpointhook(*args, **kws).  sys.breakpointhook() " ++
      "must accept\nwhatever arguments are passed.\n\nBy default, this drops you into the pdb " ++
      "debugger."⟩,
  ⟨"bytearray", none,
    "bytearray(iterable_of_ints) -> bytearray\nbytearray(string, encoding[, errors]) -> " ++
      "bytearray\nbytearray(bytes_or_buffer) -> mutable copy of bytes_or_buffer\nbytearray(int) " ++
      "-> bytes array of size given by the parameter initialized with null bytes\nbytearray() -> " ++
      "empty bytes array\n\nConstruct a mutable bytearray object from:\n  - an iterable yielding " ++
      "integers in range(256)\n  - a text string encoded using the specified encoding\n  - a " ++
      "bytes or a buffer object\n  - any object implementing the buffer API.\n  - an integer"⟩,
  ⟨"bytes", none,
    "bytes(iterable_of_ints) -> bytes\nbytes(string, encoding[, errors]) -> " ++
      "bytes\nbytes(bytes_or_buffer) -> immutable copy of bytes_or_buffer\nbytes(int) -> bytes " ++
      "object of size given by the parameter initialized with null bytes\nbytes() -> empty bytes " ++
      "object\n\nConstruct an immutable array of bytes from:\n  - an iterable yielding integers " ++
      "in range(256)\n  - a text string encoded using the specified encoding\n  - any object " ++
      "implementing the buffer API.\n  - an integer"⟩,
  ⟨"callable", some "robj",
    "Return whether the object is callable (i.e., some kind of function).\n\nNote that classes " ++
      "are callable, as are instances of classes with a\n__call__() method."⟩,
  ⟨"chr", some "ri",
    "Return a Unicode string of one character with ordinal i; 0 <= i <= 0x10ffff."⟩,
  ⟨"classmethod", none,
    "classmethod(function) -> method\n\nConvert a function to be a class method.\n\nA class " ++
      "method receives the class as implicit first argument,\njust like an instance method " ++
      "receives the instance.\nTo declare a class method, use this idiom:\n\n  class C:\n      " ++
      "@classmethod\n      def f(cls, arg1, arg2, argN):\n          ...\n\nIt can be called " ++
      "either on the class (e.g. C.f()) or on an instance\n(e.g. C().f()).  The instance is " ++
      "ignored except for its class.\nIf a class method is called for a derived class, the " ++
      "derived class\nobject is passed as the implied first argument.\n\nClass methods are " ++
      "different than C++ or Java static methods.\nIf you want those, see the staticmethod " ++
      "builtin."⟩,
  ⟨"compile", some "rsource rfilename rmode oflags odont_inherit ooptimize k_feature_version",
    "Compile source into a code object that can be executed by exec() or eval().\n\nThe source " ++
      "code may represent a Python module, statement or expression.\nThe filename will be used " ++
      "for run-time error messages.\nThe mode must be 'exec' to compile a module, 'single' to " ++
      "compile a\nsingle (interactive) statement, or 'eval' to compile an expression.\nThe flags " ++
      "argument, if present, controls which future statements influence\nthe compilation of the " ++
      "code.\nThe dont_inherit argument, if true, stops the compilation inheriting\nthe effects " ++
      "of any future statements in effect in the code calling\ncompile; if absent or false these " ++
      "statements do influence the compilation,\nin addition to any features explicitly specified."⟩,
  ⟨"complex", some "oreal oimag",
    "Create a complex number from a real part and an optional imaginary part.\n\nThis is " ++
      "equivalent to (real + imag*1j) where imag defaults to 0."⟩,
  ⟨"delattr", some "robj rname",
    "Deletes the named attribute from the given object.\n\ndelattr(x, 'y') is equivalent to " ++
      "``del x.y``"⟩,
  ⟨"dict", none,
    "dict() -> new empty dictionary\ndict(mapping) -> new dictionary initialized from a mapping " ++
      "object's\n    (key, value) pairs\ndict(iterable) -> new dictionary initialized as if " ++
      "via:\n    d = \x7b\x7d\n    for k, v in iterable:\n        d[k] = v\ndict(**kwargs) -> new " ++
      "dictionary initialized with the name=value pairs\n    in the keyword argument list.  For " ++
      "example:  dict(one=1, two=2)"⟩,
  ⟨"dir", none,
    "dir([object]) -> list of strings\n\nIf called without an argument, return the names in the " ++
      "current scope.\nElse, return an alphabetized list of names comprising (some of) the " ++
      "attributes\nof the given object, and of attributes reachable from it.\nIf the object " ++
      "supplies a method named __dir__, it will be used; otherwise\nthe default dir() logic is " ++
      "used and returns:\n  for a module object: the module's attributes.\n  for a class object:  " ++
      "its attributes, and recursively the attributes\n    of its bases.\n  for any other object: " ++
      "its attributes, its class's attributes, and\n    recursively the attributes of its class's " ++
      "base classes."⟩,
  ⟨"divmod", some "rx ry",
    "Return the tuple (x//y, x%y).  Invariant: div*y + mod == x."⟩,
  ⟨"enumerate", some "riterable ostart",
    "Return an enumerate object.\n\n  iterable\n    an object supporting iteration\n\nThe " ++
      "enumerate object yields pairs containing a count (from start, which\ndefaults to zero) and " ++
      "a value yielded by the iterable argument.\n\nenumerate is useful for obtaining an indexed " ++
      "list:\n    (0, seq[0]), (1, seq[1]), (2, seq[2]), ..."⟩,
  ⟨"eval", some "rsource oglobals olocals",
    "Evaluate the given source in the context of globals and locals.\n\nThe source may be a " ++
      "string representing a Python expression\nor a code object as returned by compile().\nThe " ++
      "globals must be a dictionary and locals can be any mapping,\ndefaulting to the current " ++
      "globals and locals.\nIf only globals is given, locals defaults to it."⟩,
  ⟨"exec", some "rsource oglobals olocals kclosure",
    "Execute the given source in the context of globals and locals.\n\nThe source may be a " ++
      "string representing one or more Python statements\nor a code object as returned by " ++
      "compile().\nThe globals must be a dictionary and locals can be any mapping,\ndefaulting to " ++
      "the current globals and locals.\nIf only globals is given, locals defaults to it.\nThe " ++
      "closure must be a tuple of cellvars, and can only be used\nwhen source is a code object " ++
      "requiring exactly that many cellvars."⟩,
  ⟨"exit", some "ocode",
    ""⟩,
  ⟨"filter", none,
    "filter(function or None, iterable) --> filter object\n\nReturn an iterator yielding those " ++
      "items of iterable for which function(item)\nis true. If function is None, return the items " ++
      "that are true."⟩,
  ⟨"float", some "ox",
    "Convert a string or number to a floating point number, if possible."⟩,
  ⟨"format", some "rvalue oformat_spec",
    "Return value.__format__(format_spec)\n\nformat_spec defaults to the empty string.\nSee the " ++
      "Format Specification Mini-Language section of help('FORMATTING') for\ndetails."⟩,
  ⟨"frozenset", none,
    "frozenset() -> empty frozenset object\nfrozenset(iterable) -> frozenset object\n\nBuild an " ++
      "immutable unordered collection of unique elements."⟩,
  ⟨"getattr", none,
    "getattr(object, name[, default]) -> value\n\nGet a named attribute from an object; " ++
      "getattr(x, 'y') is equivalent to x.y.\nWhen a default argument is given, it is returned " ++
      "when the attribute doesn't\nexist; without it, an exception is raised in that case."⟩,
  ⟨"globals", some "",
    "Return the dictionary containing the current scope's global variables.\n\nNOTE: Updates to " ++
      "this dictionary *will* affect name lookups in the current\nglobal scope and vice-versa."⟩,
  ⟨"hasattr", some "robj rname",
    "Return whether the object has an attribute with the given name.\n\nThis is done by calling " ++
      "getattr(obj, name) and catching AttributeError."⟩,
  ⟨"hash", some "robj",
    "Return the hash value for the given object.\n\nTwo objects that compare equal must also " ++
      "have the same hash value, but the\nreverse is not necessarily true."⟩,
  ⟨"help", some "*args ^kwds",
    "Define the builtin 'help'.\n\nThis is a wrapper around pydoc.help that provides a helpful " ++
      "message\nwhen 'help' is typed at the Python interactive prompt.\n\nCalling help() at the " ++
      "Python prompt starts an interactive help session.\nCalling help(thing) prints help for the " ++
      "python object 'thing'."⟩,
  ⟨"hex", some "rnumber",
    "Return the hexadecimal representation of an integer.\n\n>>> hex(12648430)\n'0xc0ffee'"⟩,
  ⟨"id", some "robj",
    "Return the identity of an object.\n\nThis is guaranteed to be unique among simultaneously " ++
      "existing objects.\n(CPython uses the object's memory address.)"⟩,
  ⟨"input", some "oprompt",
    "Read a string from standard input.  The trailing newline is stripped.\n\nThe prompt " ++
      "string, if given, is printed to standard output without a\ntrailing newline before reading " ++
      "input.\n\nIf the user hits EOF (*nix: Ctrl-D, Windows: Ctrl-Z+Return), raise EOFError.\nOn " ++
      "*nix systems, readline is used if available."⟩,
  ⟨"int", none,
    "int([x]) -> integer\nint(x, base=10) -> integer\n\nConvert a number or string to an " ++
      "integer, or return 0 if no arguments\nare given.  If x is a number, return x.__int__().  " ++
      "For floating point\nnumbers, this truncates towards zero.\n\nIf x is not a number or if " ++
      "base is given, then x must be a string,\nbytes, or bytearray instance representing an " ++
      "integer literal in the\ngiven base.  The literal can be preceded by '+' or '-' and be " ++
      "surrounded\nby whitespace.  The base defaults to 10.  Valid bases are 0 and 2-36.\nBase 0 " ++
      "means to interpret the base from the string as an integer literal.\n>>> int('0b100', " ++
      "base=0)\n4"⟩,
  ⟨"isinstance", some "robj rclass_or_tuple",
    "Return whether an object is an instance of a class or of a subclass thereof.\n\nA tuple, " ++
      "as in ``isinstance(x, (A, B, ...))``, may be given as the target to\ncheck against. This " ++
      "is equivalent to ``isinstance(x, A) or isinstance(x, B)\nor ...`` etc."⟩,
  ⟨"issubclass", some "rcls rclass_or_tuple",
    "Return whether 'cls' is derived from another class or is the same class.\n\nA tuple, as in " ++
      "``issubclass(x, (A, B, ...))``, may be given as the target to\ncheck against. This is " ++
      "equivalent to ``issubclass(x, A) or issubclass(x, B)\nor ...``."⟩,
  ⟨"iter", none,
    "iter(iterable) -> iterator\niter(callable, sentinel) -> iterator\n\nGet an iterator from " ++
      "an object.  In the first form, the argument must\nsupply its own iterator, or be a " ++
      "sequence.\nIn the second form, the callable is called until it returns the sentinel."⟩,
  ⟨"len", some "robj",
    "Return the number of items in a container."⟩,
  ⟨"list", some "oiterable",
    "Built-in mutable sequence.\n\nIf no argument is given, the constructor creates a new empty " ++
      "list.\nThe argument must be an iterable if specified."⟩,
  ⟨"locals", some "",
    "Return a dictionary containing the current scope's local variables.\n\nNOTE: Whether or " ++
      "not updates to this dictionary will affect name lookups in\nthe local scope and vice-versa " ++
      "is *implementation dependent* and not\ncovered by any backwards compatibility guarantees."⟩,
  ⟨"map", none,
    "map(func, *iterables) --> map object\n\nMake an iterator that computes the function using " ++
      "arguments from\neach of the iterables.  Stops when the shortest iterable is exhausted."⟩,
  ⟨"max", none,
    "max(iterable, *[, default=obj, key=func]) -> value\nmax(arg1, arg2, *args, *[, key=func]) " ++
      "-> value\n\nWith a single iterable argument, return its biggest item. The\ndefault " ++
      "keyword-only argument specifies an object to return if\nthe provided iterable is " ++
      "empty.\nWith two or more arguments, return the largest argument."⟩,
  ⟨"memoryview", some "robject",
    "Create a new memoryview object which references the given object."⟩,
  ⟨"min", none,
    "min(iterable, *[, default=obj, key=func]) -> value\nmin(arg1, arg2, *args, *[, key=func]) " ++
      "-> value\n\nWith a single iterable argument, return its smallest item. The\ndefault " ++
      "keyword-only argument specifies an object to return if\nthe provided iterable is " ++
      "empty.\nWith two or more arguments, return the smallest argument."⟩,
  ⟨"next", none,
    "next(iterator[, default])\n\nReturn the next item from the iterator. If default is given " ++
      "and the iterator\nis exhausted, it is returned instead of raising StopIteration."⟩,
  ⟨"object", some "",
    "The base class of the class hierarchy.\n\nWhen called, it accepts no arguments and returns " ++
      "a new featureless\ninstance that has no instance attributes and cannot be given any."⟩,
  ⟨"oct", some "rnumber",
    "Return the octal representation of an integer.\n\n>>> oct(342391)\n'0o1234567'"⟩,
  ⟨"open", some "rfile omode obuffering oencoding oerrors onewline oclosefd oopener",
    "Open file and return a stream.  Raise OSError upon failure.\n\nfile is either a text or " ++
      "byte string giving the name (and the path\nif the file isn't in the current working " ++
      "directory) of the file to\nbe opened or an integer file descriptor of the file to " ++
      "be\nwrapped. (If a file descriptor is given, it is closed when the\nreturned I/O object is " ++
      "closed, unless closefd is set to False.)\n\nmode is an optional string that specifies the " ++
      "mode in which the file\nis opened. It defaults to 'r' which means open for reading in " ++
      "text\nmode.  Other common values are 'w' for writing (truncating the file if\nit already " ++
      "exists), 'x' for creating and writing to a new file, and\n'a' for appending (which on some " ++
      "Unix systems, means that all writes\nappend to the end of the file regardless of the " ++
      "current seek position).\nIn text mode, if encoding is not specified the encoding used is " ++
      "platform\ndependent: locale.getencoding() is called to get the current locale " ++
      "encoding.\n(For reading and writing raw bytes use binary mode and leave " ++
      "encoding\nunspecified.) The available modes are:\n\n========= " ++
      "===============================================================\nCharacter " ++
      "Meaning\n--------- ---------------------------------------------------------------\n'r'       " ++
      "open for reading (default)\n'w'       open for writing, truncating the file first\n'x'       " ++
      "create a new file and open it for writing\n'a'       open for writing, appending to " ++
      "the end of the file if it exists\n'b'       binary mode\n't'       text mode " ++
      "(default)\n'+'       open a disk file for updating (reading and writing)\n========= " ++
      "===============================================================\n\nThe default mode is " ++
      "'rt' (open for reading text). For binary random\naccess, the mode 'w+b' opens and " ++
      "truncates the file to 0 bytes, while\n'r+b' opens the file without truncation. The 'x' " ++
      "mode implies 'w' and\nraises an `FileExistsError` if the file already exists.\n\nPython " ++
      "distinguishes between files opened in binary and text modes,\neven when the underlying " ++
      "operating system doesn't. Files opened in\nbinary mode (appending 'b' to the mode " ++
      "argument) return contents as\nbytes objects without any decoding. In text mode (the " ++
      "default, or when\n't' is appended to the mode argument), the contents of the file " ++
      "are\nreturned as strings, the bytes having been first decoded using a\nplatform-dependent " ++
      "encoding or using the specified encoding if given.\n\nbuffering is an optional integer " ++
      "used to set the buffering policy.\nPass 0 to switch buffering off (only allowed in binary " ++
      "mode), 1 to select\nline buffering (only usable in text mode), and an integer > 1 to " ++
      "indicate\nthe size of a fixed-size chunk buffer.  When no buffering argument is\ngiven, " ++
      "the default buffering policy works as follows:\n\n* Binary files are buffered in " ++
      "fixed-size chunks; the size of the buffer\n  is chosen using a heuristic trying to " ++
      "determine the underlying device's\n  \"block size\" and falling back on " ++
      "`io.DEFAULT_BUFFER_SIZE`.\n  On many systems, the buffer will typically be 4096 or 8192 " ++
      "bytes long.\n\n* \"Interactive\" text files (files for which isatty() returns True)\n  use " ++
      "line buffering.  Other text files use the policy described above\n  for binary " ++
      "files.\n\nencoding is the name of the encoding used to decode or encode the\nfile. This " ++
      "should only be used in text mode. The default encoding is\nplatform dependent, but any " ++
      "encoding supported by Python can be\npassed.  See the codecs module for the list of " ++
      "supported encodings.\n\nerrors is an optional string that specifies how encoding errors " ++
      "are to\nbe handled---this argument should not be used in binary mode. Pass\n'strict' to " ++
      "raise a ValueError exception if there is an encoding error\n(the default of None has the " ++
      "same effect), or pass 'ignore' to ignore\nerrors. (Note that ignoring encoding errors can " ++
      "lead to data loss.)\nSee the documentation for codecs.register or run " ++
      "'help(codecs.Codec)'\nfor a list of the permitted encoding error strings.\n\nnewline " ++
      "controls how universal newlines works (it only applies to text\nmode). It can be None, '', " ++
      "'\\n', '\\r', and '\\r\\n'.  It works as\nfollows:\n\n* On input, if newline is None, " ++
      "universal newlines mode is\n  enabled. Lines in the input can end in '\\n', '\\r', or " ++
      "'\\r\\n', and\n  these are translated into '\\n' before being returned to the\n  caller. " ++
      "If it is '', universal newline mode is enabled, but line\n  endings are returned to the " ++
      "caller untranslated. If it has any of\n  the other legal values, input lines are only " ++
      "terminated by the given\n  string, and the line ending is returned to the caller " ++
      "untranslated.\n\n* On output, if newline is None, any '\\n' characters written are\n  " ++
      "translated to the system default line separator, os.linesep. If\n  newline is '' or '\\n', " ++
      "no translation takes place. If newline is any\n  of the other legal values, any '\\n' " ++
      "characters written are translated\n  to the given string.\n\nIf closefd is False, the " ++
      "underlying file descriptor will be kept open\nwhen the file is closed. This does not work " ++
      "when a file name is given\nand must be True in that case.\n\nA custom opener can be used " ++
      "by passing a callable as *opener*. The\nunderlying file descriptor for the file object is " ++
      "then obtained by\ncalling *opener* with (*file*, *flags*). *opener* must return an " ++
      "open\nfile descriptor (passing os.open as *opener* results in functionality\nsimilar to " ++
      "passing None).\n\nopen() returns a file object whose type depends on the mode, " ++
      "and\nthrough which the standard file operations such as reading and writing\nare " ++
      "performed. When open() is used to open a file in a text mode ('w',\n'r', 'wt', 'rt', " ++
      "etc.), it returns a TextIOWrapper. When used to open\na file in a binary mode, the " ++
      "returned class varies: in read binary\nmode, it returns a BufferedReader; in write binary " ++
      "and append binary\nmodes, it returns a BufferedWriter, and in read/write mode, it " ++
      "returns\na BufferedRandom.\n\nIt is also possible to use a string or bytearray as a file " ++
      "for both\nreading and writing. For strings StringIO can be used like a file\nopened in a " ++
      "text mode, and for bytes a BytesIO can be used like a file\nopened in a binary mode."⟩,
  ⟨"ord", some "rc",
    "Return the Unicode code point for a one-character string."⟩,
  ⟨"pow", some "rbase rexp omod",
    "Equivalent to base**exp with 2 arguments or base**exp % mod with 3 arguments\n\nSome " ++
      "types, such as ints, are able to use a more efficient algorithm when\ninvoked using the " ++
      "three argument form."⟩,
  ⟨"print", some "*args ksep kend kfile kflush",
    "Prints the values to a stream, or to sys.stdout by default.\n\nsep\n  string inserted " ++
      "between values, default a space.\nend\n  string appended after the last value, default a " ++
      "newline.\nfile\n  a file-like object (stream); defaults to the current " ++
      "sys.stdout.\nflush\n  whether to forcibly flush the stream."⟩,
  ⟨"property", some "ofget ofset ofdel odoc",
    "Property attribute.\n\n  fget\n    function to be used for getting an attribute value\n  " ++
      "fset\n    function to be used for setting an attribute value\n  fdel\n    function to be " ++
      "used for del'ing an attribute\n  doc\n    docstring\n\nTypical use is to define a managed " ++
      "attribute x:\n\nclass C(object):\n    def getx(self): return self._x\n    def setx(self, " ++
      "value): self._x = value\n    def delx(self): del self._x\n    x = property(getx, setx, " ++
      "delx, \"I'm the 'x' property.\")\n\nDecorators make defining new properties or modifying " ++
      "existing ones easy:\n\nclass C(object):\n    @property\n    def x(self):\n        \"I am " ++
      "the 'x' property.\"\n        return self._x\n    @x.setter\n    def x(self, value):\n        " ++
      "self._x = value\n    @x.deleter\n    def x(self):\n        del self._x"⟩,
  ⟨"quit", some "ocode",
    ""⟩,
  ⟨"range", none,
    "range(stop) -> range object\nrange(start, stop[, step]) -> range object\n\nReturn an " ++
      "object that produces a sequence of integers from start (inclusive)\nto stop (exclusive) by " ++
      "step.  range(i, j) produces i, i+1, i+2, ..., j-1.\nstart defaults to 0, and stop is " ++
      "omitted!  range(4) produces 0, 1, 2, 3.\nThese are exactly the valid indices for a list of " ++
      "4 elements.\nWhen step is given, it specifies the increment (or decrement)."⟩,
  ⟨"repr", some "robj",
    "Return the canonical string representation of the object.\n\nFor many object types, " ++
      "including most builtins, eval(repr(obj)) == obj."⟩,
  ⟨"reversed", some "rsequence",
    "Return a reverse iterator over the values of the given sequence."⟩,
  ⟨"round", some "rnumber ondigits",
    "Round a number to a given precision in decimal digits.\n\nThe return value is an integer " ++
      "if ndigits is omitted or None.  Otherwise\nthe return value has the same type as the " ++
      "number.  ndigits may be negative."⟩,
  ⟨"set", none,
    "set() -> new empty set object\nset(iterable) -> new set object\n\nBuild an unordered " ++
      "collection of unique elements."⟩,
  ⟨"setattr", some "robj rname rvalue",
    "Sets the named attribute on the given object to the specified value.\n\nsetattr(x, 'y', v) " ++
      "is equivalent to ``x.y = v``"⟩,
  ⟨"slice", none,
    "slice(stop)\nslice(start, stop[, step])\n\nCreate a slice object.  This is used for " ++
      "extended slicing (e.g. a[0:10:2])."⟩,
  ⟨"sorted", some "riterable kkey kreverse",
    "Return a new list containing all items from the iterable in ascending order.\n\nA custom " ++
      "key function can be supplied to customize the sort order, and the\nreverse flag can be set " ++
      "to request the result in descending order."⟩,
  ⟨"staticmethod", none,
    "staticmethod(function) -> method\n\nConvert a function to be a static method.\n\nA static " ++
      "method does not receive an implicit first argument.\nTo declare a static method, use this " ++
      "idiom:\n\n     class C:\n         @staticmethod\n         def f(arg1, arg2, argN):\n             " ++
      "...\n\nIt can be called either on the class (e.g. C.f()) or on an instance\n(e.g. " ++
      "C().f()). Both the class and the instance are ignored, and\nneither is passed implicitly " ++
      "as the first argument to the method.\n\nStatic methods in Python are similar to those " ++
      "found in Java or C++.\nFor a more advanced concept, see the classmethod builtin."⟩,
  ⟨"str", none,
    "str(object='') -> str\nstr(bytes_or_buffer[, encoding[, errors]]) -> str\n\nCreate a new " ++
      "string object from the given object. If encoding or\nerrors is specified, then the object " ++
      "must expose a data buffer\nthat will be decoded using the given encoding and error " ++
      "handler.\nOtherwise, returns the result of object.__str__() (if defined)\nor " ++
      "repr(object).\nencoding defaults to sys.getdefaultencoding().\nerrors defaults to 'strict'."⟩,
  ⟨"sum", some "riterable ostart",
    "Return the sum of a 'start' value (default: 0) plus an iterable of numbers\n\nWhen the " ++
      "iterable is empty, return the start value.\nThis function is intended specifically for use " ++
      "with numeric values and may\nreject non-numeric types."⟩,
  ⟨"super", none,
    "super() -> same as super(__class__, <first argument>)\nsuper(type) -> unbound super " ++
      "object\nsuper(type, obj) -> bound super object; requires isinstance(obj, " ++
      "type)\nsuper(type, type2) -> bound super object; requires issubclass(type2, type)\nTypical " ++
      "use to call a cooperative superclass method:\nclass C(B):\n    def meth(self, arg):\n        " ++
      "super().meth(arg)\nThis works for class methods too:\nclass C(B):\n    @classmethod\n    " ++
      "def cmeth(cls, arg):\n        super().cmeth(arg)"⟩,
  ⟨"tuple", some "oiterable",
    "Built-in immutable sequence.\n\nIf no argument is given, the constructor returns an empty " ++
      "tuple.\nIf iterable is specified the tuple is initialized from iterable's items.\n\nIf the " ++
      "argument is a tuple, the return value is the same object."⟩,
  ⟨"type", none,
    "type(object) -> the object's type\ntype(name, bases, dict, **kwds) -> a new type"⟩,
  ⟨"type.__call__", some "rself *args ^kwargs",
    "Call self as a function."⟩,
  ⟨"type.__instancecheck__", some "rself rinstance",
    "Check if an object is an instance."⟩,
  ⟨"type.__or__", some "rself rvalue",
    "Return self|value."⟩,
  ⟨"type.__prepare__", none,
    "__prepare__() -> dict\nused to create the namespace for the class statement"⟩,
  ⟨"type.__ror__", some "rself rvalue",
    "Return value|self."⟩,
  ⟨"type.__subclasscheck__", some "rself rsubclass",
    "Check if a class is a subclass."⟩,
  ⟨"type.__subclasses__", some "rself",
    "Return a list of immediate subclasses."⟩,
  ⟨"type.mro", some "rself",
    "Return a type's method resolution order."⟩,
  ⟨"vars", none,
    "vars([object]) -> dictionary\n\nWithout arguments, equivalent to locals().\nWith an " ++
      "argument, equivalent to object.__dict__."⟩,
  ⟨"zip", none,
    "zip(*iterables, strict=False) --> Yield tuples until an input is exhausted.\n\n   >>> " ++
      "list(zip('abcdefg', range(3), range(4)))\n   [('a', 0, 0), ('b', 1, 1), ('c', 2, " ++
      "2)]\n\nThe zip object yields n-length tuples, where n is the number of iterables\npassed " ++
      "as positional arguments to zip().  The i-th element in every tuple\ncomes from the i-th " ++
      "iterable argument to zip().  This continues until the\nshortest argument is " ++
      "exhausted.\n\nIf strict is true and one of the arguments is exhausted before the " ++
      "others,\nraise a ValueError."⟩,
  ⟨"NoneType", none,
    ""⟩,
  ⟨"function", some "rcode rglobals oname oargdefs oclosure",
    "Create a function object.\n\ncode\n  a code object\nglobals\n  the globals " ++
      "dictionary\nname\n  a string that overrides the name from the code object\nargdefs\n  a " ++
      "tuple that specifies the default argument values\nclosure\n  a tuple that supplies the " ++
      "bindings for free variables"⟩,
  ⟨"builtin_function_or_method", some "",
    ""⟩,
  ⟨"method", some "rfunction rinstance",
    "Create a bound instance method object."⟩,
  ⟨"module", some "rname odoc",
    "Create a module object.\n\nThe name must be a string; the optional doc argument can have " ++
      "any type."⟩,
  ⟨"ellipsis", none,
    ""⟩,
  ⟨"NotImplementedType", none,
    ""⟩,
  ⟨"partial", none,
    "partial(func, *args, **keywords) - new function with partial application\nof the given " ++
      "arguments and keywords."⟩,
  ⟨"Continue", some "ovalue",
    "Ordinary completion; ``value`` is shown when present."⟩,
  ⟨"Skip", some "",
    "Abandon the rest of the body and resume reading at the same level."⟩,
  ⟨"Breakout", some "rtarget_level ovalue",
    "Leave nested sessions until ``target_level`` is reached."⟩,
  ⟨"_NoValue", some "",
    "Marker for a Continue signal that carries nothing to display."⟩,
  ⟨"object.__delattr__", some "rself rname",
    "Implement delattr(self, name)."⟩,
  ⟨"object.__dir__", some "rself",
    "Default dir() implementation."⟩,
  ⟨"object.__eq__", some "rself rvalue",
    "Return self==value."⟩,
  ⟨"object.__format__", some "rself rformat_spec",
    "Default object formatter."⟩,
  ⟨"object.__ge__", some "rself rvalue",
    "Return self>=value."⟩,
  ⟨"object.__getattribute__", some "rself rname",
    "Return getattr(self, name)."⟩,
  ⟨"object.__getstate__", some "rself",
    "Helper for pickle."⟩,
  ⟨"object.__gt__", some "rself rvalue",
    "Return self>value."⟩,
  ⟨"object.__hash__", some "rself",
    "Return hash(self)."⟩,
  ⟨"object.__init__", some "rself *args ^kwargs",
    "Initialize self.  See help(type(self)) for accurate signature."⟩,
  ⟨"object.__init_subclass__", none,
    "This method is called when a class is subclassed.\n\nThe default implementation does " ++
      "nothing. It may be\noverridden to extend subclasses."⟩,
  ⟨"object.__le__", some "rself rvalue",
    "Return self<=value."⟩,
  ⟨"object.__lt__", some "rself rvalue",
    "Return self<value."⟩,
  ⟨"object.__ne__", some "rself rvalue",
    "Return self!=value."⟩,
  ⟨"object.__new__", some "*args ^kwargs",
    "Create and return a new object.  See help(type) for accurate signature."⟩,
  ⟨"object.__reduce__", some "rself",
    "Helper for pickle."⟩,
  ⟨"object.__reduce_ex__", some "rself rprotocol",
    "Helper for pickle."⟩,
  ⟨"object.__repr__", some "rself",
    "Return repr(self)."⟩,
  ⟨"object.__setattr__", some "rself rname rvalue",
    "Implement setattr(self, name, value)."⟩,
  ⟨"object.__sizeof__", some "rself",
    "Size of object in memory, in bytes."⟩,
  ⟨"object.__str__", some "rself",
    "Return str(self)."⟩,
  ⟨"object.__subclasshook__", none,
    "Abstract classes can override this to customize issubclass().\n\nThis is invoked early on " ++
      "by abc.ABCMeta.__subclasscheck__().\nIt should return True, False or NotImplemented.  If " ++
      "it returns\nNotImplemented, the normal algorithm is used.  Otherwise, it\noverrides the " ++
      "normal algorithm (and the outcome is cached)."⟩,
  ⟨"int.__abs__", some "rself",
    "abs(self)"⟩,
  ⟨"int.__add__", some "rself rvalue",
    "Return self+value."⟩,
  ⟨"int.__and__", some "rself rvalue",
    "Return self&value."⟩,
  ⟨"int.__bool__", some "rself",
    "True if self else False"⟩,
  ⟨"int.__ceil__", none,
    "Ceiling of an Integral returns itself."⟩,
  ⟨"int.__divmod__", some "rself rvalue",
    "Return divmod(self, value)."⟩,
  ⟨"int.__float__", some "rself",
    "float(self)"⟩,
  ⟨"int.__floor__", none,
    "Flooring an Integral returns itself."⟩,
  ⟨"int.__floordiv__", some "rself rvalue",
    "Return self//value."⟩,
  ⟨"int.__getnewargs__", some "rself",
    ""⟩,
  ⟨"int.__index__", some "rself",
    "Return self converted to an integer, if self is suitable for use as an index into a list."⟩,
  ⟨"int.__int__", some "rself",
    "int(self)"⟩,
  ⟨"int.__invert__", some "rself",
    "~self"⟩,
  ⟨"int.__lshift__", some "rself rvalue",
    "Return self<<value."⟩,
  ⟨"int.__mod__", some "rself rvalue",
    "Return self%value."⟩,
  ⟨"int.__mul__", some "rself rvalue",
    "Return self*value."⟩,
  ⟨"int.__neg__", some "rself",
    "-self"⟩,
  ⟨"int.__or__", some "rself rvalue",
    "Return self|value."⟩,
  ⟨"int.__pos__", some "rself",
    "+self"⟩,
  ⟨"int.__pow__", some "rself rvalue omod",
    "Return pow(self, value, mod)."⟩,
  ⟨"int.__radd__", some "rself rvalue",
    "Return value+self."⟩,
  ⟨"int.__rand__", some "rself rvalue",
    "Return value&self."⟩,
  ⟨"int.__rdivmod__", some "rself rvalue",
    "Return divmod(value, self)."⟩,
  ⟨"int.__rfloordiv__", some "rself rvalue",
    "Return value//self."⟩,
  ⟨"int.__rlshift__", some "rself rvalue",
    "Return value<<self."⟩,
  ⟨"int.__rmod__", some "rself rvalue",
    "Return value%self."⟩,
  ⟨"int.__rmul__", some "rself rvalue",
    "Return value*self."⟩,
  ⟨"int.__ror__", some "rself rvalue",
    "Return value|self."⟩,
  ⟨"int.__round__", none,
    "Rounding an Integral returns itself.\n\nRounding with an ndigits argument also returns an " ++
      "integer."⟩,
  ⟨"int.__rpow__", some "rself rvalue omod",
    "Return pow(value, self, mod)."⟩,
  ⟨"int.__rrshift__", some "rself rvalue",
    "Return value>>self."⟩,
  ⟨"int.__rshift__", some "rself rvalue",
    "Return self>>value."⟩,
  ⟨"int.__rsub__", some "rself rvalue",
    "Return value-self."⟩,
  ⟨"int.__rtruediv__", some "rself rvalue",
    "Return value/self."⟩,
  ⟨"int.__rxor__", some "rself rvalue",
    "Return value^self."⟩,
  ⟨"int.__sizeof__", some "rself",
    "Returns size in memory, in bytes."⟩,
  ⟨"int.__sub__", some "rself rvalue",
    "Return self-value."⟩,
  ⟨"int.__truediv__", some "rself rvalue",
    "Return self/value."⟩,
  ⟨"int.__trunc__", none,
    "Truncating an Integral returns itself."⟩,
  ⟨"int.__xor__", some "rself rvalue",
    "Return self^value."⟩,
  ⟨"int.as_integer_ratio", some "rself",
    "Return integer ratio.\n\nReturn a pair of integers, whose ratio is exactly equal to the " ++
      "original int\nand with a positive denominator.\n\n>>> (10).as_integer_ratio()\n(10, " ++
      "1)\n>>> (-10).as_integer_ratio()\n(-10, 1)\n>>> (0).as_integer_ratio()\n(0, 1)"⟩,
  ⟨"int.bit_count", some "rself",
    "Number of ones in the binary representation of the absolute value of self.\n\nAlso known " ++
      "as the population count.\n\n>>> bin(13)\n'0b1101'\n>>> (13).bit_count()\n3"⟩,
  ⟨"int.bit_length", some "rself",
    "Number of bits necessary to represent self in binary.\n\n>>> bin(37)\n'0b100101'\n>>> " ++
      "(37).bit_length()\n6"⟩,
  ⟨"int.conjugate", none,
    "Returns self, the complex conjugate of any int."⟩,
  ⟨"int.from_bytes", some "rbytes obyteorder ksigned",
    "Return the integer represented by the given array of bytes.\n\nbytes\n  Holds the array of " ++
      "bytes to convert.  The argument must either\n  support the buffer protocol or be an " ++
      "iterable object producing bytes.\n  Bytes and bytearray are examples of built-in objects " ++
      "that support the\n  buffer protocol.\nbyteorder\n  The byte order used to represent the " ++
      "integer.  If byteorder is 'big',\n  the most significant byte is at the beginning of the " ++
      "byte array.  If\n  byteorder is 'little', the most significant byte is at the end of the\n  " ++
      "byte array.  To request the native byte order of the host system, use\n  `sys.byteorder' " ++
      "as the byte order value.  Default is to use 'big'.\nsigned\n  Indicates whether two's " ++
      "complement is used to represent the integer."⟩,
  ⟨"int.to_bytes", some "rself olength obyteorder ksigned",
    "Return an array of bytes representing an integer.\n\nlength\n  Length of bytes object to " ++
      "use.  An OverflowError is raised if the\n  integer is not representable with the given " ++
      "number of bytes.  Default\n  is length 1.\nbyteorder\n  The byte order used to represent " ++
      "the integer.  If byteorder is 'big',\n  the most significant byte is at the beginning of " ++
      "the byte array.  If\n  byteorder is 'little', the most significant byte is at the end of " ++
      "the\n  byte array.  To request the native byte order of the host system, use\n  " ++
      "`sys.byteorder' as the byte order value.  Default is to use 'big'.\nsigned\n  Determines " ++
      "whether two's complement is used to represent the integer.\n  If signed is False and a " ++
      "negative integer is given, an OverflowError\n  is raised."⟩,
  ⟨"float.__abs__", some "rself",
    "abs(self)"⟩,
  ⟨"float.__add__", some "rself rvalue",
    "Return self+value."⟩,
  ⟨"float.__bool__", some "rself",
    "True if self else False"⟩,
  ⟨"float.__ceil__", some "rself",
    "Return the ceiling as an Integral."⟩,
  ⟨"float.__divmod__", some "rself rvalue",
    "Return divmod(self, value)."⟩,
  ⟨"float.__float__", some "rself",
    "float(self)"⟩,
  ⟨"float.__floor__", some "rself",
    "Return the floor as an Integral."⟩,
  ⟨"float.__floordiv__", some "rself rvalue",
    "Return self//value."⟩,
  ⟨"float.__format__", some "rself rformat_spec",
    "Formats the float according to format_spec."⟩,
  ⟨"float.__getformat__", some "rtypestr",
    "You probably don't want to use this function.\n\n  typestr\n    Must be 'double' or " ++
      "'float'.\n\nIt exists mainly to be used in Python's test suite.\n\nThis function returns " ++
      "whichever of 'unknown', 'IEEE, big-endian' or 'IEEE,\nlittle-endian' best describes the " ++
      "format of floating point numbers used by the\nC type named by typestr."⟩,
  ⟨"float.__getnewargs__", some "rself",
    ""⟩,
  ⟨"float.__int__", some "rself",
    "int(self)"⟩,
  ⟨"float.__mod__", some "rself rvalue",
    "Return self%value."⟩,
  ⟨"float.__mul__", some "rself rvalue",
    "Return self*value."⟩,
  ⟨"float.__neg__", some "rself",
    "-self"⟩,
  ⟨"float.__pos__", some "rself",
    "+self"⟩,
  ⟨"float.__pow__", some "rself rvalue omod",
    "Return pow(self, value, mod)."⟩,
  ⟨"float.__radd__", some "rself rvalue",
    "Return value+self."⟩,
  ⟨"float.__rdivmod__", some "rself rvalue",
    "Return divmod(value, self)."⟩,
  ⟨"float.__rfloordiv__", some "rself rvalue",
    "Return value//self."⟩,
  ⟨"float.__rmod__", some "rself rvalue",
    "Return value%self."⟩,
  ⟨"float.__rmul__", some "rself rvalue",
    "Return value*self."⟩,
  ⟨"float.__round__", some "rself ondigits",
    "Return the Integral closest to x, rounding half toward even.\n\nWhen an argument is " ++
      "passed, work like built-in round(x, ndigits)."⟩,
  ⟨"float.__rpow__", some "rself rvalue omod",
    "Return pow(value, self, mod)."⟩,
  ⟨"float.__rsub__", some "rself rvalue",
    "Return value-self."⟩,
  ⟨"float.__rtruediv__", some "rself rvalue",
    "Return value/self."⟩,
  ⟨"float.__sub__", some "rself rvalue",
    "Return self-value."⟩,
  ⟨"float.__truediv__", some "rself rvalue",
    "Return self/value."⟩,
  ⟨"float.__trunc__", some "rself",
    "Return the Integral closest to x between 0 and x."⟩,
  ⟨"float.as_integer_ratio", some "rself",
    "Return integer ratio.\n\nReturn a pair of integers, whose ratio is exactly equal to the " ++
      "original float\nand with a positive denominator.\n\nRaise OverflowError on infinities and " ++
      "a ValueError on NaNs.\n\n>>> (10.0).as_integer_ratio()\n(10, 1)\n>>> " ++
      "(0.0).as_integer_ratio()\n(0, 1)\n>>> (-.25).as_integer_ratio()\n(-1, 4)"⟩,
  ⟨"float.conjugate", some "rself",
    "Return self, the complex conjugate of any float."⟩,
  ⟨"float.fromhex", some "rstring",
    "Create a floating-point number from a hexadecimal string.\n\n>>> " ++
      "float.fromhex('0x1.ffffp10')\n2047.984375\n>>> float.fromhex('-0x1p-1074')\n-5e-324"⟩,
  ⟨"float.hex", some "rself",
    "Return a hexadecimal representation of a floating-point number.\n\n>>> " ++
      "(-0.1).hex()\n'-0x1.999999999999ap-4'\n>>> 3.14159.hex()\n'0x1.921f9f01b866ep+1'"⟩,
  ⟨"float.is_integer", some "rself",
    "Return True if the float is an integer."⟩,
  ⟨"str.__add__", some "rself rvalue",
    "Return self+value."⟩,
  ⟨"str.__contains__", some "rself rkey",
    "Return key in self."⟩,
  ⟨"str.__format__", some "rself rformat_spec",
    "Return a formatted version of the string as described by format_spec."⟩,
  ⟨"str.__getitem__", some "rself rkey",
    "Return self[key]."⟩,
  ⟨"str.__iter__", some "rself",
    "Implement iter(self)."⟩,
  ⟨"str.__len__", some "rself",
    "Return len(self)."⟩,
  ⟨"str.__mod__", some "rself rvalue",
    "Return self%value."⟩,
  ⟨"str.__mul__", some "rself rvalue",
    "Return self*value."⟩,
  ⟨"str.__rmod__", some "rself rvalue",
    "Return value%self."⟩,
  ⟨"str.__rmul__", some "rself rvalue",
    "Return value*self."⟩,
  ⟨"str.__sizeof__", some "rself",
    "Return the size of the string in memory, in bytes."⟩,
  ⟨"str.capitalize", some "rself",
    "Return a capitalized version of the string.\n\nMore specifically, make the first character " ++
      "have upper case and the rest lower\ncase."⟩,
  ⟨"str.casefold", some "rself",
    "Return a version of the string suitable for caseless comparisons."⟩,
  ⟨"str.center", some "rself rwidth ofillchar",
    "Return a centered string of length width.\n\nPadding is done using the specified fill " ++
      "character (default is a space)."⟩,
  ⟨"str.count", none,
    "S.count(sub[, start[, end]]) -> int\n\nReturn the number of non-overlapping occurrences of " ++
      "substring sub in\nstring S[start:end].  Optional arguments start and end are\ninterpreted " ++
      "as in slice notation."⟩,
  ⟨"str.encode", some "rself oencoding oerrors",
    "Encode the string using the codec registered for encoding.\n\nencoding\n  The encoding in " ++
      "which to encode the string.\nerrors\n  The error handling scheme to use for encoding " ++
      "errors.\n  The default is 'strict' meaning that encoding errors raise a\n  " ++
      "UnicodeEncodeError.  Other possible values are 'ignore', 'replace' and\n  " ++
      "'xmlcharrefreplace' as well as any other name registered with\n  codecs.register_error " ++
      "that can handle UnicodeEncodeErrors."⟩,
  ⟨"str.endswith", none,
    "S.endswith(suffix[, start[, end]]) -> bool\n\nReturn True if S ends with the specified " ++
      "suffix, False otherwise.\nWith optional start, test S beginning at that position.\nWith " ++
      "optional end, stop comparing S at that position.\nsuffix can also be a tuple of strings to " ++
      "try."⟩,
  ⟨"str.expandtabs", some "rself otabsize",
    "Return a copy where all tab characters are expanded using spaces.\n\nIf tabsize is not " ++
      "given, a tab size of 8 characters is assumed."⟩,
  ⟨"str.find", none,
    "S.find(sub[, start[, end]]) -> int\n\nReturn the lowest index in S where substring sub is " ++
      "found,\nsuch that sub is contained within S[start:end].  Optional\narguments start and end " ++
      "are interpreted as in slice notation.\n\nReturn -1 on failure."⟩,
  ⟨"str.format", none,
    "S.format(*args, **kwargs) -> str\n\nReturn a formatted version of S, using substitutions " ++
      "from args and kwargs.\nThe substitutions are identified by braces ('\x7b' and '\x7d')."⟩,
  ⟨"str.format_map", none,
    "S.format_map(mapping) -> str\n\nReturn a formatted version of S, using substitutions from " ++
      "mapping.\nThe substitutions are identified by braces ('\x7b' and '\x7d')."⟩,
  ⟨"str.index", none,
    "S.index(sub[, start[, end]]) -> int\n\nReturn the lowest index in S where substring sub is " ++
      "found,\nsuch that sub is contained within S[start:end].  Optional\narguments start and end " ++
      "are interpreted as in slice notation.\n\nRaises ValueError when the substring is not found."⟩,
  ⟨"str.isalnum", some "rself",
    "Return True if the string is an alpha-numeric string, False otherwise.\n\nA string is " ++
      "alpha-numeric if all characters in the string are alpha-numeric and\nthere is at least one " ++
      "character in the string."⟩,
  ⟨"str.isalpha", some "rself",
    "Return True if the string is an alphabetic string, False otherwise.\n\nA string is " ++
      "alphabetic if all characters in the string are alphabetic and there\nis at least one " ++
      "character in the string."⟩,
  ⟨"str.isascii", some "rself",
    "Return True if all characters in the string are ASCII, False otherwise.\n\nASCII " ++
      "characters have code points in the range U+0000-U+007F.\nEmpty string is ASCII too."⟩,
  ⟨"str.isdecimal", some "rself",
    "Return True if the string is a decimal string, False otherwise.\n\nA string is a decimal " ++
      "string if all characters in the string are decimal and\nthere is at least one character in " ++
      "the string."⟩,
  ⟨"str.isdigit", some "rself",
    "Return True if the string is a digit string, False otherwise.\n\nA string is a digit " ++
      "string if all characters in the string are digits and there\nis at least one character in " ++
      "the string."⟩,
  ⟨"str.isidentifier", some "rself",
    "Return True if the string is a valid Python identifier, False otherwise.\n\nCall " ++
      "keyword.iskeyword(s) to test whether string s is a reserved identifier,\nsuch as \"def\" " ++
      "or \"class\"."⟩,
  ⟨"str.islower", some "rself",
    "Return True if the string is a lowercase string, False otherwise.\n\nA string is lowercase " ++
      "if all cased characters in the string are lowercase and\nthere is at least one cased " ++
      "character in the string."⟩,
  ⟨"str.isnumeric", some "rself",
    "Return True if the string is a numeric string, False otherwise.\n\nA string is numeric if " ++
      "all characters in the string are numeric and there is at\nleast one character in the " ++
      "string."⟩,
  ⟨"str.isprintable", some "rself",
    "Return True if the string is printable, False otherwise.\n\nA string is printable if all " ++
      "of its characters are considered printable in\nrepr() or if it is empty."⟩,
  ⟨"str.isspace", some "rself",
    "Return True if the string is a whitespace string, False otherwise.\n\nA string is " ++
      "whitespace if all characters in the string are whitespace and there\nis at least one " ++
      "character in the string."⟩,
  ⟨"str.istitle", some "rself",
    "Return True if the string is a title-cased string, False otherwise.\n\nIn a title-cased " ++
      "string, upper- and title-case characters may only\nfollow uncased characters and lowercase " ++
      "characters only cased ones."⟩,
  ⟨"str.isupper", some "rself",
    "Return True if the string is an uppercase string, False otherwise.\n\nA string is " ++
      "uppercase if all cased characters in the string are uppercase and\nthere is at least one " ++
      "cased character in the string."⟩,
  ⟨"str.join", some "rself riterable",
    "Concatenate any number of strings.\n\nThe string whose method is called is inserted in " ++
      "between each given string.\nThe result is returned as a new string.\n\nExample: " ++
      "'.'.join(['ab', 'pq', 'rs']) -> 'ab.pq.rs'"⟩,
  ⟨"str.ljust", some "rself rwidth ofillchar",
    "Return a left-justified string of length width.\n\nPadding is done using the specified " ++
      "fill character (default is a space)."⟩,
  ⟨"str.lower", some "rself",
    "Return a copy of the string converted to lowercase."⟩,
  ⟨"str.lstrip", some "rself ochars",
    "Return a copy of the string with leading whitespace removed.\n\nIf chars is given and not " ++
      "None, remove characters in chars instead."⟩,
  ⟨"str.maketrans", none,
    "Return a translation table usable for str.translate().\n\nIf there is only one argument, " ++
      "it must be a dictionary mapping Unicode\nordinals (integers) or characters to Unicode " ++
      "ordinals, strings or None.\nCharacter keys will be then converted to ordinals.\nIf there " ++
      "are two arguments, they must be strings of equal length, and\nin the resulting dictionary, " ++
      "each character in x will be mapped to the\ncharacter at the same position in y. If there " ++
      "is a third argument, it\nmust be a string, whose characters will be mapped to None in the " ++
      "result."⟩,
  ⟨"str.partition", some "rself rsep",
    "Partition the string into three parts using the given separator.\n\nThis will search for " ++
      "the separator in the string.  If the separator is found,\nreturns a 3-tuple containing the " ++
      "part before the separator, the separator\nitself, and the part after it.\n\nIf the " ++
      "separator is not found, returns a 3-tuple containing the original string\nand two empty " ++
      "strings."⟩,
  ⟨"str.removeprefix", some "rself rprefix",
    "Return a str with the given prefix string removed if present.\n\nIf the string starts with " ++
      "the prefix string, return string[len(prefix):].\nOtherwise, return a copy of the original " ++
      "string."⟩,
  ⟨"str.removesuffix", some "rself rsuffix",
    "Return a str with the given suffix string removed if present.\n\nIf the string ends with " ++
      "the suffix string and that suffix is not empty,\nreturn string[:-len(suffix)]. Otherwise, " ++
      "return a copy of the original\nstring."⟩,
  ⟨"str.replace", some "rself rold rnew ocount",
    "Return a copy with all occurrences of substring old replaced by new.\n\n  count\n    " ++
      "Maximum number of occurrences to replace.\n    -1 (the default value) means replace all " ++
      "occurrences.\n\nIf the optional argument count is given, only the first count occurrences " ++
      "are\nreplaced."⟩,
  ⟨"str.rfind", none,
    "S.rfind(sub[, start[, end]]) -> int\n\nReturn the highest index in S where substring sub " ++
      "is found,\nsuch that sub is contained within S[start:end].  Optional\narguments start and " ++
      "end are interpreted as in slice notation.\n\nReturn -1 on failure."⟩,
  ⟨"str.rindex", none,
    "S.rindex(sub[, start[, end]]) -> int\n\nReturn the highest index in S where substring sub " ++
      "is found,\nsuch that sub is contained within S[start:end].  Optional\narguments start and " ++
      "end are interpreted as in slice notation.\n\nRaises ValueError when the substring is not " ++
      "found."⟩,
  ⟨"str.rjust", some "rself rwidth ofillchar",
    "Return a right-justified string of length width.\n\nPadding is done using the specified " ++
      "fill character (default is a space)."⟩,
  ⟨"str.rpartition", some "rself rsep",
    "Partition the string into three parts using the given separator.\n\nThis will search for " ++
      "the separator in the string, starting at the end. If\nthe separator is found, returns a " ++
      "3-tuple containing the part before the\nseparator, the separator itself, and the part " ++
      "after it.\n\nIf the separator is not found, returns a 3-tuple containing two empty " ++
      "strings\nand the original string."⟩,
  ⟨"str.rsplit", some "rself osep omaxsplit",
    "Return a list of the substrings in the string, using sep as the separator string.\n\n  " ++
      "sep\n    The separator used to split the string.\n\n    When set to None (the default " ++
      "value), will split on any whitespace\n    character (including \\n \\r \\t \\f and spaces) " ++
      "and will discard\n    empty strings from the result.\n  maxsplit\n    Maximum number of " ++
      "splits.\n    -1 (the default value) means no limit.\n\nSplitting starts at the end of the " ++
      "string and works to the front."⟩,
  ⟨"str.rstrip", some "rself ochars",
    "Return a copy of the string with trailing whitespace removed.\n\nIf chars is given and not " ++
      "None, remove characters in chars instead."⟩,
  ⟨"str.split", some "rself osep omaxsplit",
    "Return a list of the substrings in the string, using sep as the separator string.\n\n  " ++
      "sep\n    The separator used to split the string.\n\n    When set to None (the default " ++
      "value), will split on any whitespace\n    character (including \\n \\r \\t \\f and spaces) " ++
      "and will discard\n    empty strings from the result.\n  maxsplit\n    Maximum number of " ++
      "splits.\n    -1 (the default value) means no limit.\n\nSplitting starts at the front of " ++
      "the string and works to the end.\n\nNote, str.split() is mainly useful for data that has " ++
      "been intentionally\ndelimited.  With natural text that includes punctuation, consider " ++
      "using\nthe regular expression module."⟩,
  ⟨"str.splitlines", some "rself okeepends",
    "Return a list of the lines in the string, breaking at line boundaries.\n\nLine breaks are " ++
      "not included in the resulting list unless keepends is given and\ntrue."⟩,
  ⟨"str.startswith", none,
    "S.startswith(prefix[, start[, end]]) -> bool\n\nReturn True if S starts with the specified " ++
      "prefix, False otherwise.\nWith optional start, test S beginning at that position.\nWith " ++
      "optional end, stop comparing S at that position.\nprefix can also be a tuple of strings to " ++
      "try."⟩,
  ⟨"str.strip", some "rself ochars",
    "Return a copy of the string with leading and trailing whitespace removed.\n\nIf chars is " ++
      "given and not None, remove characters in chars instead."⟩,
  ⟨"str.swapcase", some "rself",
    "Convert uppercase characters to lowercase and lowercase characters to uppercase."⟩,
  ⟨"str.title", some "rself",
    "Return a version of the string where each word is titlecased.\n\nMore specifically, words " ++
      "start with uppercased characters and all remaining\ncased characters have lower case."⟩,
  ⟨"str.translate", some "rself rtable",
    "Replace each character in the string using the given translation table.\n\n  table\n    " ++
      "Translation table, which must be a mapping of Unicode ordinals to\n    Unicode ordinals, " ++
      "strings, or None.\n\nThe table must implement lookup/indexing via __getitem__, for " ++
      "instance a\ndictionary or list.  If this operation raises LookupError, the character " ++
      "is\nleft untouched.  Characters mapped to None are deleted."⟩,
  ⟨"str.upper", some "rself",
    "Return a copy of the string converted to uppercase."⟩,
  ⟨"str.zfill", some "rself rwidth",
    "Pad a numeric string with zeros on the left, to fill a field of the given width.\n\nThe " ++
      "string is never truncated."⟩,
  ⟨"list.__add__", some "rself rvalue",
    "Return self+value."⟩,
  ⟨"list.__class_getitem__", none,
    "See PEP 585"⟩,
  ⟨"list.__contains__", some "rself rkey",
    "Return key in self."⟩,
  ⟨"list.__delitem__", some "rself rkey",
    "Delete self[key]."⟩,
  ⟨"list.__getitem__", none,
    "x.__getitem__(y) <==> x[y]"⟩,
  ⟨"list.__iadd__", some "rself rvalue",
    "Implement self+=value."⟩,
  ⟨"list.__imul__", some "rself rvalue",
    "Implement self*=value."⟩,
  ⟨"list.__iter__", some "rself",
    "Implement iter(self)."⟩,
  ⟨"list.__len__", some "rself",
    "Return len(self)."⟩,
  ⟨"list.__mul__", some "rself rvalue",
    "Return self*value."⟩,
  ⟨"list.__reversed__", some "rself",
    "Return a reverse iterator over the list."⟩,
  ⟨"list.__rmul__", some "rself rvalue",
    "Return value*self."⟩,
  ⟨"list.__setitem__", some "rself rkey rvalue",
    "Set self[key] to value."⟩,
  ⟨"list.__sizeof__", some "rself",
    "Return the size of the list in memory, in bytes."⟩,
  ⟨"list.append", some "rself robject",
    "Append object to the end of the list."⟩,
  ⟨"list.clear", some "rself",
    "Remove all items from list."⟩,
  ⟨"list.copy", some "rself",
    "Return a shallow copy of the list."⟩,
  ⟨"list.count", some "rself rvalue",
    "Return number of occurrences of value."⟩,
  ⟨"list.extend", some "rself riterable",
    "Extend list by appending elements from the iterable."⟩,
  ⟨"list.index", some "rself rvalue ostart ostop",
    "Return first index of value.\n\nRaises ValueError if the value is not present."⟩,
  ⟨"list.insert", some "rself rindex robject",
    "Insert object before index."⟩,
  ⟨"list.pop", some "rself oindex",
    "Remove and return item at index (default last).\n\nRaises IndexError if list is empty or " ++
      "index is out of range."⟩,
  ⟨"list.remove", some "rself rvalue",
    "Remove first occurrence of value.\n\nRaises ValueError if the value is not present."⟩,
  ⟨"list.reverse", some "rself",
    "Reverse *IN PLACE*."⟩,
  ⟨"list.sort", some "rself kkey kreverse",
    "Sort the list in ascending order and return None.\n\nThe sort is in-place (i.e. the list " ++
      "itself is modified) and stable (i.e. the\norder of two equal elements is " ++
      "maintained).\n\nIf a key function is given, apply it once to each list item and sort " ++
      "them,\nascending or descending, according to their function values.\n\nThe reverse flag " ++
      "can be set to sort in descending order."⟩,
  ⟨"dict.__class_getitem__", none,
    "See PEP 585"⟩,
  ⟨"dict.__contains__", some "rself rkey",
    "True if the dictionary has the specified key, else False."⟩,
  ⟨"dict.__delitem__", some "rself rkey",
    "Delete self[key]."⟩,
  ⟨"dict.__getitem__", none,
    "x.__getitem__(y) <==> x[y]"⟩,
  ⟨"dict.__ior__", some "rself rvalue",
    "Return self|=value."⟩,
  ⟨"dict.__iter__", some "rself",
    "Implement iter(self)."⟩,
  ⟨"dict.__len__", some "rself",
    "Return len(self)."⟩,
  ⟨"dict.__or__", some "rself rvalue",
    "Return self|value."⟩,
  ⟨"dict.__reversed__", some "rself",
    "Return a reverse iterator over the dict keys."⟩,
  ⟨"dict.__ror__", some "rself rvalue",
    "Return value|self."⟩,
  ⟨"dict.__setitem__", some "rself rkey rvalue",
    "Set self[key] to value."⟩,
  ⟨"dict.__sizeof__", none,
    "D.__sizeof__() -> size of D in memory, in bytes"⟩,
  ⟨"dict.clear", none,
    "D.clear() -> None.  Remove all items from D."⟩,
  ⟨"dict.copy", none,
    "D.copy() -> a shallow copy of D"⟩,
  ⟨"dict.fromkeys", some "riterable ovalue",
    "Create a new dictionary with keys from iterable and values set to value."⟩,
  ⟨"dict.get", some "rself rkey odefault",
    "Return the value for key if key is in the dictionary, else default."⟩,
  ⟨"dict.items", none,
    "D.items() -> a set-like object providing a view on D's items"⟩,
  ⟨"dict.keys", none,
    "D.keys() -> a set-like object providing a view on D's keys"⟩,
  ⟨"dict.pop", none,
    "D.pop(k[,d]) -> v, remove specified key and return the corresponding value.\n\nIf the key " ++
      "is not found, return the default if given; otherwise,\nraise a KeyError."⟩,
  ⟨"dict.popitem", some "rself",
    "Remove and return a (key, value) pair as a 2-tuple.\n\nPairs are returned in LIFO " ++
      "(last-in, first-out) order.\nRaises KeyError if the dict is empty."⟩,
  ⟨"dict.setdefault", some "rself rkey odefault",
    "Insert key with a value of default if key is not in the dictionary.\n\nReturn the value " ++
      "for key if key is in the dictionary, else default."⟩,
  ⟨"dict.update", none,
    "D.update([E, ]**F) -> None.  Update D from dict/iterable E and F.\nIf E is present and has " ++
      "a .keys() method, then does:  for k in E: D[k] = E[k]\nIf E is present and lacks a .keys() " ++
      "method, then does:  for k, v in E: D[k] = v\nIn either case, this is followed by: for k in " ++
      "F:  D[k] = F[k]"⟩,
  ⟨"dict.values", none,
    "D.values() -> an object providing a view on D's values"⟩,
  ⟨"tuple.__add__", some "rself rvalue",
    "Return self+value."⟩,
  ⟨"tuple.__class_getitem__", none,
    "See PEP 585"⟩,
  ⟨"tuple.__contains__", some "rself rkey",
    "Return key in self."⟩,
  ⟨"tuple.__getitem__", some "rself rkey",
    "Return self[key]."⟩,
  ⟨"tuple.__getnewargs__", some "rself",
    ""⟩,
  ⟨"tuple.__iter__", some "rself",
    "Implement iter(self)."⟩,
  ⟨"tuple.__len__", some "rself",
    "Return len(self)."⟩,
  ⟨"tuple.__mul__", some "rself rvalue",
    "Return self*value."⟩,
  ⟨"tuple.__rmul__", some "rself rvalue",
    "Return value*self."⟩,
  ⟨"tuple.count", some "rself rvalue",
    "Return number of occurrences of value."⟩,
  ⟨"tuple.index", some "rself rvalue ostart ostop",
    "Return first index of value.\n\nRaises ValueError if the value is not present."⟩]

end NestShell.Code
