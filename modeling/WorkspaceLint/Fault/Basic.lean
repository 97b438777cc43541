import WorkspaceLint.Fault.Lineage
import WorkspaceLint.Text.Utf8
import WorkspaceLint.Value

/-!
# Faults

A fault is what code raises when it cannot go on: the name of its class, the standard classes it
belongs to, and its arguments. Plugins raise faults of any class; so do the few places of this
library that stand for code outside it, such as the file system. What is done about a fault depends
on the classes it belongs to.

Some classes ask for arguments of certain kinds. Making a fault of such a class with other arguments
ends in a fault as well, one that says what is wrong with them.
-/

namespace WorkspaceLint

/-- What code raised. The ancestors are the standard classes that the class refines, in order.
`importName` is the module that an import asked for, where the fault says. -/
structure Fault where
  className : String
  ancestors : List String
  arguments : List Value
  importName : Option String
  deriving Repr, Inhabited, BEq

namespace Fault

/-! ## Classes -/

/-- Whether a fault belongs to a class. -/
def isA (fault : Fault) (className : String) : Bool := fault.ancestors.contains className

/-- Whether a fault belongs to one of several classes. -/
def isAnyOf (fault : Fault) (classNames : List String) : Bool := classNames.any fault.isA

/-- Whether a fault is one that a program is expected to handle, unlike a request to stop. -/
def isOrdinary (fault : Fault) : Bool := fault.isA "Exception"

/-- Whether a class, or one that it refines, took the arguments of a fault. -/
def tookArguments (fault : Fault) (className : String) : Bool :=
  (lineage (takerOf fault.ancestors)).contains className

/-- The class of an operating system fault with the given number. -/
def systemClass (code : Int) : String :=
  if [1, 13].contains code then "PermissionError"
  else if code = 2 then "FileNotFoundError"
  else if code = 3 then "ProcessLookupError"
  else if code = 4 then "InterruptedError"
  else if code = 10 then "ChildProcessError"
  else if [11, 114, 115].contains code then "BlockingIOError"
  else if code = 17 then "FileExistsError"
  else if code = 20 then "NotADirectoryError"
  else if code = 21 then "IsADirectoryError"
  else if [32, 108].contains code then "BrokenPipeError"
  else if code = 103 then "ConnectionAbortedError"
  else if code = 104 then "ConnectionResetError"
  else if code = 110 then "TimeoutError"
  else if code = 111 then "ConnectionRefusedError"
  else "OSError"

/-- Whether arguments carry the number and the reason of an operating system fault. -/
def areSystemArguments (arguments : List Value) : Bool :=
  2 ≤ arguments.length && arguments.length ≤ 5

/-- The number of an operating system fault. -/
def systemNumber? (fault : Fault) : Option Value :=
  if fault.tookArguments "OSError" && areSystemArguments fault.arguments then fault.arguments.head?
  else none

/-- The class that is raised when a standard class is asked for: a general fault of the operating
system becomes the one that its number stands for. -/
def raisedClass (className : String) (arguments : List Value) : String :=
  if className = "OSError" && areSystemArguments arguments then
    match arguments.head? with
    | some (.int code) => systemClass code
    | some (.bool code) => systemClass (if code then 1 else 0)
    | _ => className
  else className

/-! ## Making faults -/

/-- A fault of a standard class, the arguments of which are not looked at. -/
def standard (className : String) (arguments : List Value) (importName : Option String) : Fault :=
  let className := raisedClass (standardName className) arguments
  ⟨className, lineage className, arguments, importName⟩

/-- A fault of a standard class that carries a message. -/
def withMessage (className message : String) : Fault :=
  standard className [.text message] none

/-- A fault of the operating system that concerns a file. -/
def ofSystem (code : Nat) (reason file : String) : Fault :=
  standard "OSError" [.int code, .text reason, .text file] none

/-- A failed decoding of the given bytes. -/
def ofDecoding (bytes : List UInt8) (fault : Text.DecodeFault) : Fault :=
  standard "UnicodeDecodeError"
    [.text fault.codec, .bytes bytes, .int fault.start, .int fault.stop, .text fault.reason] none

/-! ## Kinds of arguments -/

/-- What an argument may be asked to be. -/
inductive ArgumentKind where
  | text
  | bytes
  | index
  deriving Repr, DecidableEq, Inhabited

/-- Whether a number can be that of a position. -/
def isPosition (number : Int) : Bool :=
  -9223372036854775808 ≤ number && number ≤ 9223372036854775807

/-- The fault of an argument that is no whole number. -/
def noIndex (argument : Value) : Fault :=
  .withMessage "TypeError"
    ("'" ++ argument.kindName ++ "' object cannot be interpreted as an integer")

/-- The fault of an argument at a place that is no text but something else. -/
def noText (place : Nat) (found : String) : Fault :=
  .withMessage "TypeError" ("argument " ++ toString place ++ " must be str, not " ++ found)

/-- What is wrong with the argument at a place, counted from one, which is asked to be of a kind.
Whether it is bytes is looked at later. -/
def argumentFault? (place : Nat) (kind : ArgumentKind) (argument : Value) : Option Fault :=
  match kind, argument with
  | .bytes, _ => none
  | .text, .text _ => none
  | .text, .null => some (noText place "None")
  | .text, argument => some (noText place argument.kindName)
  | .index, .int number =>
    if isPosition number then none
    else some (.withMessage "OverflowError" "Python int too large to convert to C ssize_t")
  | .index, .bool _ => none
  | .index, argument => some (noIndex argument)

/-- The first fault of arguments that are asked to be of certain kinds, counted from a place. -/
def argumentsFaultFrom? : (place : Nat) → List ArgumentKind → List Value → Option Fault
  | place, kind :: kinds, argument :: arguments =>
    argumentFault? place kind argument <|> argumentsFaultFrom? (place + 1) kinds arguments
  | _, _, _ => none

/-- The fault of arguments that are to be bytes and are not. -/
def bytesFault? : List ArgumentKind → List Value → Option Fault
  | .bytes :: _, .bytes _ :: _ => none
  | .bytes :: _, argument :: _ =>
    some (.withMessage "TypeError"
      ("a bytes-like object is required, not '" ++ argument.kindName ++ "'"))
  | _ :: kinds, _ :: arguments => bytesFault? kinds arguments
  | _, _ => none

/-- The fault of a number of arguments that is not the one asked for. -/
def countFault (asked : String) (count given : Nat) : Fault :=
  .withMessage "TypeError" <| "function takes " ++ asked ++ " " ++ toString count ++ " arguments ("
    ++ toString given ++ " given)"

/-- The fault of arguments that do not have the kinds asked for, if they do not. -/
def kindsFault? (kinds : List ArgumentKind) (arguments : List Value) : Option Fault :=
  if arguments.length ≠ kinds.length then
    some (countFault "exactly" kinds.length arguments.length)
  else argumentsFaultFrom? 1 kinds arguments <|> bytesFault? kinds arguments

/-- The kinds of arguments that a failed decoding, encoding or mapping of characters has. -/
def codecKinds : List (String × List ArgumentKind) := [
    ("UnicodeDecodeError", [.text, .bytes, .index, .index, .text]),
    ("UnicodeEncodeError", [.text, .text, .index, .index, .text]),
    ("UnicodeTranslateError", [.text, .index, .index, .text])]

/-! ## Places in source text -/

/-- The items of a value that stands for several. -/
def itemsOf? : Value → Option (List Value)
  | .list items => some items
  | .text text => some (text.toList.map fun c => .text (String.ofList [c]))
  | .table entries => some (entries.map fun entry => .text entry.1)
  | .bytes bytes => some (bytes.map fun byte => .int byte.toNat)
  | _ => none

/-- What is wrong with the account of a place in source text: a file, a line, an offset and a text,
and perhaps another line and offset. -/
def placeFault? (place : Value) : Option Fault :=
  match itemsOf? place with
  | none =>
    some (.withMessage "TypeError" ("'" ++ place.kindName ++ "' object is not iterable"))
  | some items =>
    if items.length < 4 then some (countFault "at least" 4 items.length)
    else if items.length > 6 then some (countFault "at most" 6 items.length)
    else if items.length = 5 then
      some (.withMessage "TypeError" "end_offset must be provided when end_lineno is provided")
    else none

/-! ## Groups of faults -/

/-- The function that makes groups of faults. -/
def groupMaker : String := groupClass ++ ".__new__()"

/-- What is wrong with the members of a group. No argument is a fault, so something always is. -/
def membersFault (members : Value) : Fault :=
  let described := "second argument (exceptions)"
  let length? :=
    match members with
    | .table _ => none
    | members => (itemsOf? members).map List.length
  match length? with
  | none => .withMessage "TypeError" (described ++ " must be a sequence")
  | some 0 => .withMessage "ValueError" (described ++ " must be a non-empty sequence")
  | some _ => .withMessage "ValueError" ("Item 0 of " ++ described ++ " is not an exception")

/-- What is wrong with the arguments of a group of faults: a message and the members. -/
def groupFault : List Value → Fault
  | [.text _, members] => membersFault members
  | [message, _] =>
    let found := if message == .null then "None" else message.kindName
    .withMessage "TypeError" (groupMaker ++ " argument 1 must be str, not " ++ found)
  | arguments =>
    .withMessage "TypeError" <| groupMaker ++ " takes exactly 2 arguments ("
      ++ toString arguments.length ++ " given)"

/-! ## Making faults of any arguments -/

/-- The number of characters written, which a fault of an output that would block may have in the
place of a file. -/
def writtenFault? : List Value → Option Fault
  | [_, _, .float number] => some (noIndex (.float number))
  | [_, _, .int number] =>
    if isPosition number then none
    else some (.withMessage "ValueError" "cannot fit 'int' into an index-sized integer")
  | _ => none

/-- What is wrong with the arguments of a class, if anything is. -/
def makingFault? (className : String) (arguments : List Value) : Option Fault :=
  let line := lineage className
  match codecKinds.find? fun entry => line.contains entry.1 with
  | some (_, kinds) => kindsFault? kinds arguments
  | none =>
    if line.contains groupClass then some (groupFault arguments)
    else if line.contains "SyntaxError" then
      match arguments with
      | [_, place] => placeFault? place
      | _ => none
    else if raisedClass (standardName className) arguments = "BlockingIOError"
        && areSystemArguments arguments then writtenFault? (arguments.take 3)
    else none

/-- A fault of a standard class, or the fault of making it. -/
def make (className : String) (arguments : List Value) (importName : Option String) :
    Except Fault Fault :=
  match makingFault? className arguments with
  | some fault => .error fault
  | none => .ok (standard className arguments importName)

/-- A fault of a new class that refines standard ones, or the fault of making it. -/
def derive (className : String) (bases : List String) (arguments : List Value)
    (importName : Option String) : Except Fault Fault :=
  if (heldBy bases).length > 1 then
    .error (.withMessage "TypeError" "multiple bases have instance lay-out conflict")
  else match commonLineage bases with
    | .error problem => .error (.withMessage "TypeError" problem.message)
    | .ok line =>
      let taker := if line.contains groupClass then groupClass else takerOf line
      let fault? :=
        if (lineage taker).contains "OSError" then none else makingFault? taker arguments
      match fault? with
      | some fault => .error fault
      | none => .ok ⟨className, line, arguments, importName⟩

end Fault

end WorkspaceLint
