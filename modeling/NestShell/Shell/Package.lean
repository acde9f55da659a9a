import NestShell.Files.Tree
/-!
Packages that programs can load: those that the language comes with, and those in a directory. A
directory is a package by its start file, or by nothing at all; other packages are single files.
-/
namespace NestShell.Shell.Package

open NestShell.Text NestShell.Files

/-- Packages that are part of the language's program. -/
def compiledIn : List String := words
  "_abc _ast _codecs _collections _functools _imp _io _locale _operator _signal _sre _stat
    _string _symtable _thread _tracemalloc _warnings _weakref atexit builtins errno
    faulthandler gc itertools marshal posix pwd sys time xxsubtype"

/-- Packages that are kept inside the language's program as text. -/
def frozenIn : List String := words
  "_collections_abc _frozen_importlib _frozen_importlib_external _sitebuiltins abc codecs
    genericpath io ntpath os posixpath runpy site stat zipimport"

/-- Packages of several files that the language comes with. -/
def suppliedDirectories : List String := words
  "asyncio collections concurrent ctypes curses dbm email encodings ensurepip html http idlelib
    importlib json lib2to3 logging multiprocessing pydoc_data re sqlite3 tkinter tomllib
    turtledemo unittest urllib venv wsgiref xml xmlrpc zoneinfo pip setuptools"

/-- Packages of one file that the language comes with. -/
def suppliedFiles : List String := words
  "__future__ _asyncio _bisect _blake2 _bootsubprocess _bz2 _codecs_cn _codecs_hk
    _codecs_iso2022 _codecs_jp _codecs_kr _codecs_tw _compat_pickle _compression _contextvars
    _crypt _csv _ctypes _curses _curses_panel _datetime _dbm _decimal _elementtree _hashlib
    _heapq _json _lsprof _lzma _markupbase _md5 _multibytecodec _multiprocessing _opcode
    _pickle _posixshmem _posixsubprocess _py_abc _pydecimal _pyio _queue _random _sha1 _sha256
    _sha3 _sha512 _socket _sqlite3 _ssl _statistics _strptime _struct _threading_local _tkinter
    _tokenize _typing _uuid _weakrefset _zoneinfo aifc antigravity argparse array ast asynchat
    asyncore audioop base64 bdb binascii bisect bz2 cProfile calendar cgi cgitb chunk cmath cmd
    code codeop colorsys compileall configparser contextlib contextvars copy copyreg crypt csv
    dataclasses datetime decimal difflib dis distutils doctest enum fcntl filecmp fileinput
    fnmatch fractions ftplib functools getopt getpass gettext glob graphlib grp gzip hashlib
    heapq hmac imaplib imghdr imp inspect ipaddress keyword linecache locale lzma mailbox
    mailcap math mimetypes mmap modulefinder netrc nntplib nturl2path numbers opcode operator
    optparse ossaudiodev pathlib pdb pickle pickletools pipes pkgutil platform plistlib poplib
    pprint profile pstats pty py_compile pyclbr pydoc pyexpat queue quopri random readline
    reprlib resource rlcompleter sched secrets select selectors shelve shlex shutil signal
    smtpd smtplib sndhdr socket socketserver spwd sre_compile sre_constants sre_parse ssl
    statistics string stringprep struct subprocess sunau symtable sysconfig syslog tabnanny
    tarfile telnetlib tempfile termios textwrap this threading timeit token tokenize trace
    traceback tracemalloc tty turtle types typing unicodedata uu uuid warnings wave weakref
    webbrowser xdrlib zipapp zipfile zlib"

/-- Where the packages that the language comes with are kept. -/
def libraryDirectory : String := "/usr/local/lib/python3.11"

/-- Where a package is: in a directory, or in the language's program. -/
inductive Place where
  | directory (path : String)
  | inside (origin : String)
  deriving DecidableEq, Repr

def supplied? (name : String) : Option Place :=
  if compiledIn.contains name then some (.inside "built-in")
  else if frozenIn.contains name then some (.inside "frozen")
  else if suppliedDirectories.contains name then
    some (.directory (libraryDirectory ++ "/" ++ name))
  else if suppliedFiles.contains name then some (.directory libraryDirectory)
  else none

/-- The package of a name in a directory, and the directory of its parts, if it has parts. -/
def inDirectory? (t : Tree) (l : Location) (name : String) : Option (Place × Option Location) :=
  let path (l : Location) : String := "/" ++ "/".intercalate l
  let own := l ++ [name]
  let isFile (m : Location) : Bool := t.node? m matches some (.file _)
  if name.isEmpty || containsChar '/' name then none
  else if t.isDirectoryAt own && isFile (own ++ ["__init__.py"]) then
    some (.directory (path own), some own)
  else if isFile (l ++ [name ++ ".py"]) then some (.directory (path l), none)
  else if t.isDirectoryAt own then some (.directory (path own), some own)
  else none

/-- The package of a name whose parts points separate. -/
def along? (t : Tree) : Location → List String → Option Place
  | _, [] => none
  | l, [n] => (inDirectory? t l n).map (·.1)
  | l, n :: ns =>
    match inDirectory? t l n with
    | some (_, some inner) => along? t inner ns
    | _ => none

/-- Finds a package; parts of those that the language comes with are not told apart. -/
def find? (t : Tree) (root : Location) (name : String) : Option Place :=
  match splitOnChar '.' name with
  | [n] => (supplied? n).orElse fun _ => along? t root [n]
  | n :: ns =>
    match n.isEmpty, supplied? n with
    | true, _ => none
    | _, some (.directory d) =>
      if suppliedDirectories.contains n && ns.all (fun m => !m.isEmpty) then some (.directory d)
      else none
    | _, _ => along? t root (n :: ns)
  | [] => none

end NestShell.Shell.Package
