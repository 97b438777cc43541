import WorkspaceLint.Settings

/-!
# Arguments of the command line

The command line holds options and two positional arguments: the workspace descriptor and the
plugin. They may stand in any order; two hyphens alone end the options. A value is attached to its
long option by an equals sign or follows as the next argument, whatever that looks like. Where an
option is given more than once, the last one counts, and the values of the others are not looked at.

## Shape of the reading

Reading has two steps. `readArguments` finds the options and the positional arguments, and every
problem it can have is one of form. Then `Request.of` looks at the values, unless help was asked
for.
-/

namespace WorkspaceLint.CommandLine

/-! ## Options -/

/-- The options. -/
inductive OptionName where
  | diagnostics
  | strict
  | sort
  | jobs
  | installed
  | format
  | emoji
  | noEmoji
  | noColor
  | debug
  | help
  deriving Repr, DecidableEq, Inhabited

namespace OptionName

/-- The long names of the options. -/
def longNames : List (String × OptionName) := [
    ("--workspace-diagnostics", .diagnostics), ("--strict", .strict), ("--sort", .sort),
    ("--jobs", .jobs), ("--installed", .installed), ("--format", .format), ("--emoji", .emoji),
    ("--no-emoji", .noEmoji), ("--no-color", .noColor), ("--debug", .debug), ("--help", .help)]

/-- The letters of the options that have a short name. -/
def letters : List (Char × OptionName) := [('j', .jobs)]

/-- Whether an option has a value. -/
def takesValue : OptionName → Bool
  | .diagnostics => true
  | .jobs => true
  | .format => true
  | _ => false

end OptionName

/-- What is wrong with a command line. -/
inductive UsageProblem where
  | unknownOption (name : String)
  | valueMissing (name : OptionName)
  | valueNotTaken (name : OptionName)
  | badChoice (value : String)
  | badNumber (value : String)
  | badPath (value : String)
  | surplusArguments (arguments : List String)
  | argumentMissing
  deriving Repr, DecidableEq, Inhabited

/-! ## Single arguments -/

/-- What one argument is. -/
inductive ArgumentKind where
  | positional
  | endOfOptions
  | flag (name : OptionName)
  | valued (name : OptionName) (value : String)
  | awaiting (name : OptionName)
  | bad (problem : UsageProblem)
  deriving Repr, DecidableEq, Inhabited

namespace ArgumentKind

/-- What a long option is, without a value attached to it or with one. -/
def ofLong (name : OptionName) (value : Option String) : ArgumentKind :=
  match name.takesValue, value with
  | true, some value => .valued name value
  | true, none => .awaiting name
  | false, some _ => .bad (.valueNotTaken name)
  | false, none => .flag name

/-- What an argument is that begins with one hyphen and a letter: the letter names the option, and
the rest is its value. -/
def ofLetters (argument : List Char) : ArgumentKind :=
  match argument with
  | letter :: rest =>
    match OptionName.letters.lookup letter with
    | none => .bad (.unknownOption (String.ofList ['-', letter]))
    | some name => if rest.isEmpty then .awaiting name else .valued name (String.ofList rest)
  | [] => .positional

/-- The name of an option and the value attached to it. -/
def splitValue (argument : List Char) : String × Option String :=
  match argument.span (· ≠ '=') with
  | (name, _ :: value) => (String.ofList name, some (String.ofList value))
  | (name, []) => (String.ofList name, none)

/-- What an argument is. -/
def of (argument : String) : ArgumentKind :=
  match argument.toList with
  | '-' :: '-' :: [] => .endOfOptions
  | '-' :: c :: rest =>
    let (name, value) := splitValue ('-' :: c :: rest)
    match OptionName.longNames.lookup name with
    | some name => ofLong name value
    | none => if c = '-' then .bad (.unknownOption name) else ofLetters (c :: rest)
  | _ => .positional

end ArgumentKind

/-! ## All arguments -/

/-- The options of a command line, each with its value if it has one, and the positional arguments.
-/
structure Reading where
  options : List (OptionName × String)
  positional : List String
  deriving Repr, DecidableEq, Inhabited

namespace Reading

/-- A reading with one more option in front. -/
def withOption (name : OptionName) (value : String) (reading : Reading) : Reading :=
  { reading with options := (name, value) :: reading.options }

/-- A reading with one more positional argument in front. -/
def withPositional (argument : String) (reading : Reading) : Reading :=
  { reading with positional := argument :: reading.positional }

/-- Whether an option is given. -/
def has (reading : Reading) (name : OptionName) : Bool :=
  reading.options.any fun option => option.1 = name

/-- The last value that is given to an option. -/
def lastValue? (reading : Reading) (name : OptionName) : Option String :=
  reading.options.reverse.lookup name

end Reading

/-- Reads arguments, of which the first is the value of `awaited` where there is one. -/
def readFrom : (awaited : Option OptionName) → List String → Except UsageProblem Reading
  | none, [] => .ok ⟨[], []⟩
  | some name, [] => .error (.valueMissing name)
  | some name, value :: rest => (readFrom none rest).map (Reading.withOption name value)
  | none, argument :: rest =>
    match ArgumentKind.of argument with
    | .positional => (readFrom none rest).map (Reading.withPositional argument)
    | .endOfOptions => .ok ⟨[], rest⟩
    | .flag name => (readFrom none rest).map (Reading.withOption name "")
    | .valued name value => (readFrom none rest).map (Reading.withOption name value)
    | .awaiting name => readFrom (some name) rest
    | .bad problem => .error problem

/-- Reads the arguments of a command line. -/
def readArguments (arguments : List String) : Except UsageProblem Reading := readFrom none arguments

/-! ## Values -/

/-- The word that is chosen among words. -/
def readWord {α : Type} (choices : List (String × α)) (value : String) : Except UsageProblem α :=
  match choices.lookup value with
  | some choice => .ok choice
  | none => .error (.badChoice value)

/-- The number of jobs that a text stands for. -/
def readJobs (text : String) : Except UsageProblem Int :=
  (Validation.readPositive (.text text)).mapError fun _ => .badNumber text

/-- The value of an option that is given, read, or nothing. -/
def readOption {α : Type} (reading : Reading) (name : OptionName)
    (read : String → Except UsageProblem α) : Except UsageProblem (Option α) :=
  match reading.lastValue? name with
  | none => .ok none
  | some value => (read value).map some

/-- Whether emoji are wanted: of the two options for that, the last one counts. -/
def wantsEmoji (reading : Reading) : Bool :=
  let given := reading.options.filter fun option => option.1 = .emoji || option.1 = .noEmoji
  match given.getLast? with
  | some option => option.1 = .emoji
  | none => false

/-! ## Requests -/

/-- How messages are to be shown. -/
structure Presentation where
  emoji : Bool
  noColor : Bool
  debug : Bool
  deriving Repr, DecidableEq, Inhabited

/-- What a command line asks for: an account of its options, or a run. -/
inductive Request where
  | help
  | run (descriptor analyzer : String) (options : Options) (presentation : Presentation)
  deriving Repr, Inhabited, BEq

/-- The options of a run. -/
def readOptions (reading : Reading) : Except UsageProblem Options := do
  let diagnostics ← readOption reading .diagnostics (readWord DiagnosticPolicy.choices)
  let jobs ← readOption reading .jobs readJobs
  let format ← readOption reading .format (readWord ReportFormat.choices)
  return ⟨diagnostics, reading.has .strict, reading.has .sort, (jobs.map Value.int).getD .null,
    reading.has .installed, format.getD .text⟩

/-- How messages of a run are to be shown. -/
def presentationOf (reading : Reading) : Presentation :=
  ⟨wantsEmoji reading, reading.has .noColor, reading.has .debug⟩

namespace Request

/-- Whether a text cannot be that of a path. -/
def isNoPath (text : String) : Bool := text.toList.contains (Char.ofNat 0)

/-- What positional arguments ask for. Without any, help is wanted. -/
def ofPositional (options : Options) (presentation : Presentation) :
    List String → Except UsageProblem Request
  | [] => .ok .help
  | descriptor :: rest =>
    if isNoPath descriptor then .error (.badPath descriptor)
    else match rest with
      | [] => .error .argumentMissing
      | [analyzer] => .ok (.run descriptor analyzer options presentation)
      | _ :: surplus => .error (.surplusArguments surplus)

/-- What a reading asks for. -/
def ofReading (reading : Reading) : Except UsageProblem Request :=
  if reading.has .help then .ok .help
  else (readOptions reading).bind fun options =>
    ofPositional options (presentationOf reading) reading.positional

/-- What the arguments of a command line ask for. -/
def of (arguments : List String) : Except UsageProblem Request :=
  (readArguments arguments).bind ofReading

end Request

end WorkspaceLint.CommandLine
