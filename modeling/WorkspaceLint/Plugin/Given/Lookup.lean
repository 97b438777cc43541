import WorkspaceLint.Plugin.Given.Program
import WorkspaceLint.Plugin.Given.StandardAToB
import WorkspaceLint.Plugin.Given.StandardCToD
import WorkspaceLint.Plugin.Given.StandardEToI
import WorkspaceLint.Plugin.Given.StandardJToO
import WorkspaceLint.Plugin.Given.StandardPToS
import WorkspaceLint.Plugin.Given.StandardTToZ

/-!
# Looking up given modules

Some of the given modules are loaded when a session starts, because the program itself uses them;
these are found before anything else. Of the others, a few are built in and come before the files of
the tree as well. The rest come after them, so that a file takes the place of a given module that
nobody has loaded yet.

The names of one given module are known everywhere, in modules that do not bind them.
-/

namespace WorkspaceLint

namespace GivenModule

/-- All given modules. -/
def all : List GivenModule :=
  standardAToB ++ standardCToD ++ standardEToI ++ standardJToO ++ standardPToS ++ standardTToZ
    ++ program

/-- The given module of a name. -/
def find? (name : String) : Option GivenModule := all.find? fun module => module.name == name

/-- The standard modules that are loaded when a session starts. -/
def loadedNames : List String :=
  words <|
    "__future__ _thread abc argparse array ast atexit base64 binascii bisect builtins bz2 "
      ++ "calendar codecs collections collections.abc colorsys concurrent concurrent.futures "
      ++ "concurrent.futures.thread configparser contextlib contextvars copy copyreg csv "
      ++ "dataclasses datetime decimal dis email email.base64mime email.charset email.encoders "
      ++ "email.errors email.header email.iterators email.message email.quoprimime email.utils "
      ++ "encodings encodings.aliases encodings.utf_8 enum errno fcntl fnmatch fractions "
      ++ "functools genericpath getpass gettext hashlib heapq html html.entities importlib "
      ++ "importlib.abc importlib.machinery importlib.metadata importlib.resources "
      ++ "importlib.resources.abc importlib.util inspect io ipaddress itertools json json.decoder "
      ++ "json.encoder json.scanner keyword linecache locale logging lzma marshal math ntpath "
      ++ "numbers opcode operator os os.path pathlib platform posix posixpath queue quopri random "
      ++ "re reprlib select selectors shlex shutil signal site socket stat string struct "
      ++ "subprocess sys sysconfig tempfile termios textwrap threading time token tokenize "
      ++ "tomllib traceback types typing urllib urllib.parse uuid warnings weakref zipfile "
      ++ "zipimport zlib zoneinfo"

/-- The standard modules that are built in and are not loaded when a session starts. -/
def builtInNames : List String :=
  words <|
    "audioop cmath faulthandler gc grp mmap ossaudiodev pwd pyexpat readline resource runpy "
      ++ "spwd syslog unicodedata"

/-- Whether a given module is loaded when a session starts. -/
def isLoaded (module : GivenModule) : Bool :=
  loadedNames.contains module.name || program.contains module

/-- The given module of a name that comes before the files of the tree. -/
def findBuiltIn? (name : String) : Option GivenModule :=
  if builtInNames.contains name then find? name else none

/-! ## Common names -/

/-- The common names of values. -/
def commonValues : List (String × Value) :=
  [("True", .bool true), ("False", .bool false), ("None", .null), ("__debug__", .bool true),
    (PluginModule.nameKey, .text PluginClass.commonOwner)]

/-- What the module of the common names binds. -/
def commonBindings : List (String × PluginObject) :=
  ((find? PluginClass.commonOwner).map bindings).getD []

/-- What a name stands for in every module that does not bind it. -/
def commonObject? (name : String) : Option PluginObject :=
  match commonValues.lookup name with
  | some value => some (.value value)
  | none => commonBindings.lookup name

end GivenModule

namespace Session

/-- The name of the class of all checkers. -/
def checkerName : String := PluginClass.checker.name

/-- The session at the start of a run. -/
def initial : Session :=
  let loaded := GivenModule.all.filter GivenModule.isLoaded
  ⟨loaded.map GivenModule.toModule, (loaded.map GivenModule.name).zipIdx,
    PluginClass.givenNumber + 1, []⟩

end Session

end WorkspaceLint
