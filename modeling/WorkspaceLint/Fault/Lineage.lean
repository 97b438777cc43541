/-!
# Classes of faults

Every class of faults refines another one, up to the class of everything that can be raised. A new
class may refine several classes. Its lineage is a single line all the same: each class comes before
those that it refines, and the classes that it refines keep their order.

## Shape of the merge

The line of a new class is merged from the lines of the classes that it refines and the list of
these classes. What comes next is the first head that stands behind no other head; where every head
stands behind another, the classes have no common line.
-/

namespace WorkspaceLint.Fault

/-- The standard classes, each with the class it refines. -/
def parents : List (String × String) := [
    ("Exception", "BaseException"), ("SystemExit", "BaseException"),
    ("KeyboardInterrupt", "BaseException"), ("GeneratorExit", "BaseException"),
    ("BaseExceptionGroup", "BaseException"), ("StopIteration", "Exception"),
    ("StopAsyncIteration", "Exception"),
    ("ArithmeticError", "Exception"), ("FloatingPointError", "ArithmeticError"),
    ("OverflowError", "ArithmeticError"), ("ZeroDivisionError", "ArithmeticError"),
    ("AssertionError", "Exception"), ("AttributeError", "Exception"), ("BufferError", "Exception"),
    ("EOFError", "Exception"), ("ImportError", "Exception"), ("ModuleNotFoundError", "ImportError"),
    ("ZipImportError", "ImportError"), ("LookupError", "Exception"), ("IndexError", "LookupError"),
    ("KeyError", "LookupError"), ("MemoryError", "Exception"), ("NameError", "Exception"),
    ("UnboundLocalError", "NameError"), ("OSError", "Exception"), ("BlockingIOError", "OSError"),
    ("ChildProcessError", "OSError"), ("ConnectionError", "OSError"),
    ("BrokenPipeError", "ConnectionError"), ("ConnectionAbortedError", "ConnectionError"),
    ("ConnectionRefusedError", "ConnectionError"), ("ConnectionResetError", "ConnectionError"),
    ("FileExistsError", "OSError"), ("FileNotFoundError", "OSError"),
    ("InterruptedError", "OSError"),
    ("IsADirectoryError", "OSError"), ("NotADirectoryError", "OSError"),
    ("PermissionError", "OSError"), ("ProcessLookupError", "OSError"), ("TimeoutError", "OSError"),
    ("ReferenceError", "Exception"), ("RuntimeError", "Exception"),
    ("NotImplementedError", "RuntimeError"), ("RecursionError", "RuntimeError"),
    ("SyntaxError", "Exception"), ("IndentationError", "SyntaxError"),
    ("TabError", "IndentationError"),
    ("SystemError", "Exception"), ("TypeError", "Exception"), ("ValueError", "Exception"),
    ("ValidationError", "ValueError"), ("UnicodeError", "ValueError"),
    ("UnicodeDecodeError", "UnicodeError"), ("UnicodeEncodeError", "UnicodeError"),
    ("UnicodeTranslateError", "UnicodeError"), ("CustomError", "Exception"),
    ("Warning", "Exception"),
    ("BytesWarning", "Warning"), ("DeprecationWarning", "Warning"), ("EncodingWarning", "Warning"),
    ("FutureWarning", "Warning"), ("ImportWarning", "Warning"),
    ("PendingDeprecationWarning", "Warning"),
    ("ResourceWarning", "Warning"), ("RuntimeWarning", "Warning"), ("SyntaxWarning", "Warning"),
    ("UnicodeWarning", "Warning"), ("UserWarning", "Warning")]

/-- Further names of standard classes. -/
def aliases : List (String × String) := [("IOError", "OSError"), ("EnvironmentError", "OSError")]

/-- The name of the standard class that a name stands for. -/
def standardName (name : String) : String := (aliases.lookup name).getD name

/-- A class and the classes it refines, up to the given number of steps. -/
def lineageWithin : (steps : Nat) → String → List String
  | 0, name => [name]
  | steps + 1, name =>
    match parents.lookup name with
    | some parent => name :: lineageWithin steps parent
    | none => [name]

/-- The class of groups of faults of any kind. -/
def groupClass : String := "BaseExceptionGroup"

/-- A standard class and the classes it refines. The class of groups of ordinary faults refines two:
it is a class of groups and one of ordinary faults. -/
def lineage (name : String) : List String :=
  if name = "ExceptionGroup" then name :: groupClass :: lineageWithin parents.length "Exception"
  else lineageWithin parents.length (standardName name)

/-! ## Several classes at once -/

/-- The first head of several lines that stands behind no head of another. -/
def nextHead? (lines : List (List String)) : Option String :=
  (lines.filterMap List.head?).find? fun name => !lines.any fun line => line.tail.contains name

/-- Lines without a name at their heads. -/
def withoutHead (name : String) (lines : List (List String)) : List (List String) :=
  (lines.map fun line => if line.head? = some name then line.tail else line).filter
    fun line => !line.isEmpty

/-- Why classes have no common line: one of them is there twice, or heads of their lines stand
behind one another. -/
inductive LineageProblem where
  | repeated (className : String)
  | entangled (heads : List String)
  deriving Repr, DecidableEq, Inhabited

/-- The account of classes that have no common line. -/
def LineageProblem.message : LineageProblem → String
  | .repeated className => "duplicate base class " ++ className
  | .entangled heads =>
    "Cannot create a consistent method resolution\norder (MRO) for bases "
      ++ ", ".intercalate heads

/-- Several lines merged into one of at most the given length. -/
def mergeWithin : (length : Nat) → List (List String) → Except LineageProblem (List String)
  | _, [] => .ok []
  | 0, _ => .ok []
  | length + 1, lines =>
    match nextHead? lines with
    | none => .error (.entangled (lines.filterMap List.head?).eraseDups)
    | some name => (mergeWithin length (withoutHead name lines)).map (name :: ·)

/-- The first of several names that is there once more. -/
def repeated? : List String → Option String
  | [] => none
  | name :: names => if names.contains name then some name else repeated? names

/-- The common line of a new class that refines the given ones. -/
def commonLineage (bases : List String) : Except LineageProblem (List String) :=
  match repeated? (bases.map standardName) with
  | some name => .error (.repeated name)
  | none =>
    let lines := bases.map lineage ++ [bases.map standardName]
    mergeWithin lines.flatten.length (lines.filter fun line => !line.isEmpty)

/-! ## What a class holds -/

/-- Classes that are like the one they refine in everything but their name. -/
def bareClasses : List String := ["CustomError", "ZipImportError"]

/-- The class of a line that takes the arguments of a fault. -/
def takerOf (line : List String) : String :=
  (line.find? fun name => !bareClasses.contains name).getD ""

/-- Classes of which a fault holds more than its arguments. -/
def holders : List String :=
  ["StopIteration", "SystemExit", "ImportError", "NameError", "AttributeError", "OSError",
    "SyntaxError", "UnicodeDecodeError", "UnicodeEncodeError", "UnicodeTranslateError",
    groupClass]

/-- The classes among the holders that some classes refine. -/
def heldBy (bases : List String) : List String :=
  ((bases.flatMap lineage).filter holders.contains).eraseDups

end WorkspaceLint.Fault
