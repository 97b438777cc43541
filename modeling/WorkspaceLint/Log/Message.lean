import WorkspaceLint.Log.Console
import WorkspaceLint.Value

/-!
# Messages

A run tells the user four kinds of things: lines of the report, which go to the standard output, and
warnings, failures and debug messages, which go to the error output. How a message is shown depends
on the settings of the logger and on where the outputs lead; what a run has to say does not.
-/

namespace WorkspaceLint.Log

/-- What a run tells the user. -/
inductive Message where
  | report (text : String)
  | warning (text : String)
  | failure (text : String)
  | debug (fields : List (String × Value))
  deriving Repr, Inhabited, BEq

/-- How messages are shown: with emoji, in colour, and with debug messages or without them. -/
structure Logger where
  emoji : Bool
  color : Bool
  debug : Bool
  deriving Repr, DecidableEq, Inhabited

/-- Which of the two outputs are terminals. -/
structure Terminals where
  output : Bool
  error : Bool
  deriving Repr, DecidableEq, Inhabited

/-- What was written to the two outputs. -/
structure Written where
  output : String
  error : String
  deriving Repr, DecidableEq, Inhabited

namespace Written

/-- Nothing. -/
def nothing : Written := ⟨"", ""⟩

/-- What was written first, and what after it. -/
def append (a b : Written) : Written := ⟨a.output ++ b.output, a.error ++ b.error⟩

/-- What was written in several steps. -/
def concat (steps : List Written) : Written := steps.foldr append nothing

end Written

/-! ## Warnings and failures -/

/-- The symbol of warnings. -/
def warningSymbol : String := "⚠️ "

/-- The symbol of failures. -/
def failureSymbol : String := "❌ "

/-- The symbol that stands before a message in a style. -/
def symbolOf : Style → String
  | .warning => warningSymbol
  | .failure => failureSymbol
  | _ => ""

/-- What is shown of a message in one style. Without a wish about colour there is colour on a
terminal. -/
def lineText (style : Style) (withEmoji : Bool) (color : Option Bool) (terminal : Bool)
    (text : String) : String :=
  Console.display ⟨color.getD terminal, withEmoji, terminal⟩
    (.of style (emoji (symbolOf style) withEmoji ++ text))

/-! ## Debug messages -/

/-- The word that debug messages begin with. -/
def debugMark : String := "[debug]"

/-- A named value of a debug message. -/
def fieldText (field : String × Value) : StyledText :=
  .of .key (" " ++ field.1) ++ .of .value ("=" ++ field.2.displayedText)

/-- A debug message with its named values. -/
def debugText (fields : List (String × Value)) : StyledText :=
  .of .mark debugMark ++ fields.flatMap fieldText

/-! ## The report -/

/-- Whether a character may stand among the parameters of a terminal sequence. -/
def isParameter (c : Char) : Bool := c = ';' || c = '?' || ('0' ≤ c && c ≤ '9')

/-- Whether a character ends a terminal sequence. -/
def isFinal (c : Char) : Bool := ('a' ≤ c && c ≤ 'z') || ('A' ≤ c && c ≤ 'Z')

/-- The rest of a text after the terminal sequence that it begins with. -/
def afterSequence? : List Char → Option (List Char)
  | '\x1b' :: '[' :: rest =>
    match rest.dropWhile isParameter with
    | c :: rest => if isFinal c then some rest else none
    | [] => none
  | _ => none

/-- A text of at most the given length without its terminal sequences. -/
def withoutSequencesWithin : (length : Nat) → List Char → List Char
  | 0, text => text
  | _ + 1, [] => []
  | length + 1, c :: rest =>
    match afterSequence? (c :: rest) with
    | some rest => withoutSequencesWithin length rest
    | none => c :: withoutSequencesWithin length rest

/-- A text without its terminal sequences. -/
def withoutSequences (text : String) : String :=
  String.ofList (withoutSequencesWithin text.toList.length text.toList)

/-- What is written of a line of the report: terminal sequences are for terminals only. -/
def reportText (terminal : Bool) (text : String) : String :=
  (if terminal then text else withoutSequences text) ++ "\n"

/-! ## Loggers -/

namespace Logger

/-- The wish about colour that a logger has for warnings and failures. -/
def colorWish (logger : Logger) : Option Bool := if logger.color then none else some false

/-- What is written of a message. -/
def write (logger : Logger) (terminals : Terminals) : Message → Written
  | .report text => ⟨reportText terminals.output text, ""⟩
  | .warning text =>
    ⟨"", lineText .warning logger.emoji logger.colorWish terminals.error text⟩
  | .failure text =>
    ⟨"", lineText .failure logger.emoji logger.colorWish terminals.error text⟩
  | .debug fields =>
    if logger.debug then
      ⟨"", Console.display ⟨logger.color, logger.emoji, terminals.error⟩ (debugText fields)⟩
    else .nothing

/-- What is written of several messages. -/
def writeAll (logger : Logger) (terminals : Terminals) (messages : List Message) : Written :=
  .concat (messages.map (logger.write terminals))

end Logger

end WorkspaceLint.Log
