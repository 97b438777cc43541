import WorkspaceLint.Fault.Basic

/-!
# The text of a fault

Most classes show their arguments: none as the empty text, one as it is displayed, several between
parentheses. A missing key is shown quoted. A fault of the operating system with a number and a
reason shows both and the files concerned, one of decoding or encoding shows the place in the data,
and one of source text the file and the line.

Of the classes that a fault belongs to, the first that has a way of its own decides. It shows what
it took of the arguments; where another class took them, it has nothing to show.
-/

namespace WorkspaceLint.Fault

/-- The text of arguments that are shown as they are. -/
def argumentsText : List Value → String
  | [] => ""
  | [argument] => argument.displayedText
  | arguments => Value.quotedTuple arguments

/-- The text of the arguments of a missing key. -/
def keyText : List Value → String
  | [key] => key.quotedText
  | arguments => argumentsText arguments

/-! ## The operating system -/

/-- A file that an operating system fault names, unless the place for it is empty. -/
def fileAt (arguments : List Value) (index : Nat) : Option Value :=
  match arguments[index]? with
  | some .null => none
  | file => file

/-- Whether a value is a number. -/
def isNumber : Value → Bool
  | .int _ => true
  | .bool _ => true
  | .float _ => true
  | _ => false

/-- The files that an operating system fault of a class names. In the place of a file, one of an
output that would block may have the number of characters written. -/
def filesOf (className : String) (arguments : List Value) : Option Value × Option Value :=
  match fileAt arguments 2 with
  | none => (none, none)
  | some file =>
    if className = "BlockingIOError" && isNumber file then (none, none)
    else (some file, fileAt arguments 4)

/-- The text of an operating system fault of a class. -/
def systemText (className : String) (arguments : List Value) : String :=
  match arguments with
  | code :: reason :: _ =>
    if !areSystemArguments arguments then argumentsText arguments
    else
      let head := "[Errno " ++ code.displayedText ++ "] " ++ reason.displayedText
      match filesOf className arguments with
      | (none, _) => head
      | (some file, none) => head ++ ": " ++ file.quotedText
      | (some file, some target) => head ++ ": " ++ file.quotedText ++ " -> " ++ target.quotedText
  | _ => argumentsText arguments

/-- The arguments that a fault keeps: one of the operating system that names a file keeps the number
and the reason alone. -/
def keptArguments (fault : Fault) : List Value :=
  if (systemNumber? fault).isSome && (filesOf fault.className fault.arguments).1.isSome then
    fault.arguments.take 2
  else fault.arguments

/-! ## Decoding and encoding -/

/-- The whole number that a value stands for. -/
def indexOf : Value → Int
  | .int number => number
  | .bool value => if value then 1 else 0
  | _ => 0

/-- The text of a place in data: one item of it, or the positions of several. -/
def placeText (singular plural : String) (item : Option String) (start stop : Int) : String :=
  match item with
  | some item => singular ++ " " ++ item ++ " in position " ++ toString start
  | none => plural ++ " in position " ++ toString start ++ "-" ++ toString (stop - 1)

/-- The item at a position, if the position is the only one of a place. -/
def onlyItem {α : Type} (data : List α) (start stop : Int) : Option α :=
  if stop = start + 1 && 0 ≤ start then data[start.toNat]? else none

/-- A byte as a failed decoding shows it. -/
def byteText (byte : UInt8) : String := "0x" ++ String.ofList (Text.hexDigits 2 byte.toNat)

/-- A character as a failed encoding shows it: its code point in hexadecimal digits. -/
def codePointText (c : Char) : String :=
  let code := c.toNat
  let digits :=
    if code < 0x100 then 'x' :: Text.hexDigits 2 code
    else if code < 0x10000 then 'u' :: Text.hexDigits 4 code
    else 'U' :: Text.hexDigits 8 code
  "'\\" ++ String.ofList digits ++ "'"

/-- The text of a failed decoding. -/
def decodingText : List Value → String
  | [codec, .bytes bytes, start, stop, reason] =>
    let (start, stop) := (indexOf start, indexOf stop)
    let item := (onlyItem bytes start stop).map byteText
    "'" ++ codec.displayedText ++ "' codec can't decode "
      ++ placeText "byte" "bytes" item start stop ++ ": " ++ reason.displayedText
  | _ => ""

/-- The text of a failed encoding. -/
def encodingText : List Value → String
  | [codec, .text text, start, stop, reason] =>
    let (start, stop) := (indexOf start, indexOf stop)
    let item := (onlyItem text.toList start stop).map codePointText
    "'" ++ codec.displayedText ++ "' codec can't encode "
      ++ placeText "character" "characters" item start stop ++ ": " ++ reason.displayedText
  | _ => ""

/-- The text of a failed mapping of characters. -/
def mappingText : List Value → String
  | [.text text, start, stop, reason] =>
    let (start, stop) := (indexOf start, indexOf stop)
    let item := (onlyItem text.toList start stop).map codePointText
    "can't translate " ++ placeText "character" "characters" item start stop ++ ": "
      ++ reason.displayedText
  | _ => ""

/-! ## Source text -/

/-- The last part of a path. -/
def lastName (path : String) : String :=
  String.ofList ((path.toList.reverse.takeWhile (· ≠ '/')).reverse)

/-- The number of a line as it is shown; one that is too large for a machine word is not known. -/
def lineText (line : Int) : String := "line " ++ toString (if isPosition line then line else -1)

/-- The file and the line of a place in source text, as far as they are known. -/
def placeParts (place : List Value) : List String :=
  match place with
  | .text file :: .int line :: _ => [lastName file, lineText line]
  | .text file :: _ => [lastName file]
  | _ :: .int line :: _ => [lineText line]
  | _ => []

/-- The text of a fault of source text. -/
def sourceText (arguments : List Value) : String :=
  let message := (arguments.head?.getD .null).displayedText
  let parts :=
    match arguments with
    | [_, place] => placeParts ((itemsOf? place).getD [])
    | _ => []
  if parts.isEmpty then message else message ++ " (" ++ ", ".intercalate parts ++ ")"

/-! ## All faults -/

/-- The classes that have a way of their own to show a fault. -/
def tellers : List String :=
  ["KeyError", "OSError", "UnicodeDecodeError", "UnicodeEncodeError", "UnicodeTranslateError",
    "SyntaxError", "ImportError"]

/-- What a class shows of a fault. -/
def toldBy (teller : String) (fault : Fault) : String :=
  let taken := fault.tookArguments teller
  match teller with
  | "KeyError" => keyText (keptArguments fault)
  | "OSError" =>
    if taken then systemText fault.className fault.arguments else argumentsText fault.arguments
  | "UnicodeDecodeError" => if taken then decodingText fault.arguments else ""
  | "UnicodeEncodeError" => if taken then encodingText fault.arguments else ""
  | "UnicodeTranslateError" => if taken then mappingText fault.arguments else ""
  | "SyntaxError" => sourceText (if taken then fault.arguments else [])
  | _ => argumentsText fault.arguments

/-- The text of a fault. -/
def text (fault : Fault) : String :=
  match fault.ancestors.find? tellers.contains with
  | some teller => fault.toldBy teller
  | none => argumentsText fault.arguments

/-- The name of a fault's class and its text. -/
def summary (fault : Fault) : String := fault.className ++ ": " ++ fault.text

end WorkspaceLint.Fault
