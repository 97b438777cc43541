import WorkspaceLint.CommandLine.Run

/-!
# The program

The program reads its command line, runs the command, shows its messages and ends with an exit code.
A fault that the command does not handle ends the program: a request to leave carries the exit code,
an interruption and an output that nobody reads have codes of their own, and every other fault
leaves the program as it is.
-/

namespace WorkspaceLint.CommandLine

open WorkspaceLint.Log (Logger Terminals Written)

/-- What a program did: what it wrote, its exit code, and the fault that left it, if one did. -/
structure ProgramResult where
  written : Written
  code : Int
  raised : Option Fault
  deriving Repr, Inhabited

/-! ## Texts of the command line -/

/-- The name of the program. -/
def programName : String := "runcheckers"

/-- The first line of help and of accounts of misuse. -/
def usageLine : String := "Usage: " ++ programName ++ " [OPTIONS] [SOLUTION_PATH] [ANALYZER_PATH]\n"

/-- The account of the command line. -/
def helpText : String :=
  usageLine ++ "\n  Run every checker in ANALYZER_PATH over the projects of SOLUTION_PATH.\n\n"
    ++ "Arguments:\n"
    ++ "  SOLUTION_PATH  Workspace descriptor: a TOML file declaring the projects to analyse.\n"
    ++ "  ANALYZER_PATH  Analyzer module: a .py file, a package directory or a dotted name.\n\n"
    ++ "Options:\n"
    ++ "  --workspace-diagnostics [drop|warn]  Drop or warn about workspace load problems.\n"
    ++ "  --strict                Abort on the first checker failure instead of isolating it.\n"
    ++ "  --sort                  Sort findings within each file by line, column and code.\n"
    ++ "  -j, --jobs INTEGER      Number of files analysed concurrently per project.\n"
    ++ "  --installed             Also run checkers of installed entry points.\n"
    ++ "  --format [text|json]    Report format written to stdout.\n"
    ++ "  --emoji / --no-emoji    Decorate stderr messages with emoji.\n"
    ++ "  --no-color              Disable coloured stderr output.\n"
    ++ "  --debug                 Print debug details to stderr.\n"
    ++ "  --help                  Show this message and exit.\n"

/-- The long name of an option. -/
def OptionName.longName (name : OptionName) : String :=
  ((OptionName.longNames.find? fun entry => entry.2 = name).map (·.1)).getD ""

/-- The account of a problem with the command line. -/
def UsageProblem.text : UsageProblem → String
  | .unknownOption name => "No such option: " ++ name
  | .valueMissing name => "Option " ++ Text.quoted name.longName ++ " requires an argument."
  | .valueNotTaken name => "Option " ++ Text.quoted name.longName ++ " does not take a value."
  | .badChoice value => "Invalid value: " ++ Text.quoted value ++ " is not one of the choices."
  | .badNumber value =>
    "Invalid value: " ++ Text.quoted value ++ " is not a valid positive integer."
  | .badPath value => "Invalid value: " ++ Text.quoted value ++ " is not a path."
  | .surplusArguments arguments =>
    "Got unexpected extra arguments (" ++ " ".intercalate arguments ++ ")"
  | .argumentMissing => "Invalid value for ANALYZER_PATH: argument is required"

/-- What is written about a problem with the command line. -/
def usageText (problem : UsageProblem) : String :=
  usageLine ++ "Try '" ++ programName ++ " --help' for help.\n\nError: " ++ problem.text ++ "\n"

/-- The exit code of a misused command line. -/
def usageCode : Int := 2

/-! ## Faults that end the program -/

/-- The exit code of an interrupted program. -/
def interruptedCode : Int := 130

/-- The number of the system fault of an output that nobody reads. -/
def brokenPipe : Int := 32

/-- What is written when an input ends too early. -/
def abortedText : String := "\nAborted.\n"

/-- Whether a fault is that of an output that nobody reads. -/
def isBrokenPipe (fault : Fault) : Bool := fault.systemNumber? == some (.int brokenPipe)

/-- The value that a request to leave the program carries. -/
def leavingValue (fault : Fault) : Value :=
  if !fault.tookArguments "SystemExit" then .null
  else match fault.arguments with
    | [] => .null
    | [value] => value
    | values => .text (Value.quotedTuple values)

/-- What a program did that wrote something and was then asked to leave. A number is the exit code;
every other value is shown, and the exit code is that of a failure. -/
def leave (written : Written) (fault : Fault) : ProgramResult :=
  match leavingValue fault with
  | .null => ⟨written, 0, none⟩
  | .int code => ⟨written, code, none⟩
  | .bool value => ⟨written, if value then 1 else 0, none⟩
  | value => ⟨written.append ⟨value.displayedText ++ "\n", ""⟩, 1, none⟩

/-- What a program did that wrote something and was then ended by a fault. -/
def endedBy (written : Written) (fault : Fault) : ProgramResult :=
  if fault.isA "SystemExit" then leave written fault
  else if fault.isA "KeyboardInterrupt" then ⟨written, interruptedCode, none⟩
  else if fault.isA "EOFError" then ⟨written.append ⟨"", abortedText⟩, 1, none⟩
  else if isBrokenPipe fault then ⟨written, 1, none⟩
  else ⟨written, 1, some fault⟩

/-! ## The whole -/

/-- The logger for a presentation. -/
def loggerOf (presentation : Presentation) : Logger :=
  ⟨presentation.emoji, !presentation.noColor, presentation.debug⟩

/-- The exit code of a run that ended by itself. -/
def Conclusion.code : Conclusion → Int
  | .completed => 0
  | .failed => 1
  | .escaped _ => 1

/-- What the program did, from the transcript of its run. -/
def conclude (logger : Logger) (terminals : Terminals) (transcript : Transcript) : ProgramResult :=
  let written := logger.writeAll terminals transcript.messages
  match transcript.conclusion with
  | .escaped fault => endedBy written fault
  | conclusion => ⟨written, conclusion.code, none⟩

/-- What the program does with a request. -/
def perform (environment : Environment) (terminals : Terminals) : Request → ProgramResult
  | .help => ⟨⟨helpText, ""⟩, 0, none⟩
  | .run descriptor analyzer options presentation =>
    conclude (loggerOf presentation) terminals
      (runCheckers environment (Path.ofText descriptor) analyzer options)

/-- What the program does with the arguments of its command line. -/
def runProgram (environment : Environment) (terminals : Terminals) (arguments : List String) :
    ProgramResult :=
  match Request.of arguments with
  | .ok request => perform environment terminals request
  | .error problem => ⟨⟨"", usageText problem⟩, usageCode, none⟩

end WorkspaceLint.CommandLine
