import WorkspaceLint.Fault.Calling
import WorkspaceLint.Finding

/-!
# Settings of a run

Settings come in three layers: the standard values, the program's own section of the workspace
descriptor, and what the command line gives. A key of the section may be written with hyphens or
with low lines; where both are there, the later one counts. The upper layers are merged before
anything is validated, so a value that is overridden is never looked at.
-/

namespace WorkspaceLint

/-! ## Choices -/

/-- The fault of a value that names none of the choices of a kind. -/
def noChoice (kind : String) (value : Value) : Fault :=
  .withMessage "ValueError" (value.quotedText ++ " is not a valid " ++ kind)

/-- The choice of a kind that a value names. -/
def chosen {α : Type} (kind : String) (choices : List (String × α)) (value : Value) :
    Except Fault α :=
  match value with
  | .text word =>
    match choices.lookup word with
    | some choice => .ok choice
    | none => .error (noChoice kind value)
  | value => .error (noChoice kind value)

/-- What is done about problems with parts of a workspace: nothing, or a warning for each. -/
inductive DiagnosticPolicy where
  | drop
  | warn
  deriving Repr, DecidableEq, Inhabited

namespace DiagnosticPolicy

/-- The word for a policy. -/
def word : DiagnosticPolicy → String
  | .drop => "drop"
  | .warn => "warn"

/-- The policies under their words. -/
def choices : List (String × DiagnosticPolicy) := [("drop", .drop), ("warn", .warn)]

/-- The policy that a value names. -/
def ofValue : Value → Except Fault DiagnosticPolicy := chosen "WorkspaceDiagnosticPolicy" choices

end DiagnosticPolicy

/-! ## Settings -/

/-- The settings of a run. -/
structure Settings where
  projects : Option (List String)
  exclude : List String
  diagnostics : DiagnosticPolicy
  isolateFailures : Bool
  sortFindings : Bool
  jobs : Int
  deriving Repr, DecidableEq, Inhabited

/-- Why there are no settings. -/
inductive SettingsFault where
  | toolNotTable
  | sectionNotTable
  | invalid (issues : List Issue)
  deriving Repr, DecidableEq, Inhabited

namespace Settings

/-- The key of the table that holds the sections of all programs. -/
def toolKey : String := "tool"

/-- The key of the program's own section. -/
def sectionKey : String := "runcheckers"

/-- The name that validation has for the record. -/
def recordName : String := "RunConfig"

/-- The settings of a run for which nothing was set. -/
def standard : Settings := ⟨none, [], .drop, true, false, 1⟩

/-! ## Keys -/

/-- A key with low lines in the place of hyphens. -/
def normalKey (key : String) : String :=
  String.ofList (key.toList.map fun c => if c = '-' then '_' else c)

/-- Entries under their normal keys. -/
def normalEntries (entries : List (String × Value)) : List (String × Value) :=
  entries.foldl (fun entries entry => Value.put entries (normalKey entry.1) entry.2) []

/-- The keys of the settings, in the order in which they are validated. -/
def keys : List String :=
  ["projects", "exclude", "workspace_diagnostics", "isolate_failures", "sort_findings", "jobs"]

/-! ## Layers -/

/-- The program's own section of a descriptor, under normal keys. Where there is none it is empty.
-/
def sectionOf (document : List (String × Value)) : Except SettingsFault (List (String × Value)) :=
  match document.lookup toolKey with
  | none => .ok []
  | some (.table tool) =>
    match tool.lookup sectionKey with
    | none => .ok []
    | some (.table entries) => .ok (normalEntries entries)
    | some _ => .error .sectionNotTable
  | some _ => .error .toolNotTable

/-- Reads settings from named values; every name has to be one of the keys. -/
def ofEntries (entries : List (String × Value)) : Validated Settings :=
  open Validation in
  (((((((Validated.start Settings.mk).apply
    (field entries "projects" (some standard.projects) readOptionalTexts)).apply
    (field entries "exclude" (some standard.exclude) readTexts)).apply
    (field entries "workspace_diagnostics" (some standard.diagnostics)
      (single (readChoice DiagnosticPolicy.choices)))).apply
    (field entries "isolate_failures" (some standard.isolateFailures) (single readBoolean))).apply
    (field entries "sort_findings" (some standard.sortFindings) (single readBoolean))).apply
    (field entries "jobs" (some standard.jobs) (single readPositive))).withFurther
    (unknownFields keys entries)

/-- Entries with those of another layer put over them; empty ones are passed over. -/
def overlay (entries overrides : List (String × Value)) : List (String × Value) :=
  overrides.foldl
    (fun entries entry =>
      match entry.2 with
      | .null => entries
      | value => Value.put entries entry.1 value)
    entries

/-- The settings of a run, from a descriptor, where there is one, and from what overrides it. -/
def load (document : Option (List (String × Value))) (overrides : List (String × Value)) :
    Except SettingsFault Settings :=
  match sectionOf (document.getD []) with
  | .error fault => .error fault
  | .ok entries => (ofEntries (overlay entries overrides)).mapError .invalid

end Settings

/-- The one-line account of a fault in the settings. -/
def SettingsFault.message : SettingsFault → String
  | .toolNotTable => "[" ++ Settings.toolKey ++ "] must be a table"
  | .sectionNotTable => "[" ++ Settings.toolKey ++ "." ++ Settings.sectionKey ++ "] must be a table"
  | .invalid issues =>
    "Invalid [" ++ Settings.toolKey ++ "." ++ Settings.sectionKey ++ "] configuration: "
      ++ Issue.headline issues Settings.recordName

/-! ## Options of the command line -/

/-- The form of the report. -/
inductive ReportFormat where
  | text
  | json
  deriving Repr, DecidableEq, Inhabited

namespace ReportFormat

/-- The report formats under their words. -/
def choices : List (String × ReportFormat) := [("text", .text), ("json", .json)]

/-- The report format that a value names. -/
def ofValue : Value → Except Fault ReportFormat := chosen "ReportFormat" choices

end ReportFormat

/-- What the command line can say about a run. An option that is not given says nothing, and an
empty number of jobs says nothing either. What the number is to be is a matter of the settings. -/
structure Options where
  diagnostics : Option DiagnosticPolicy
  strict : Bool
  sort : Bool
  jobs : Value
  installed : Bool
  format : ReportFormat
  deriving Repr, Inhabited, BEq

namespace Options

/-- The options of a command line that gives none. -/
def standard : Options := ⟨none, false, false, .null, false, .text⟩

/-- The names of the options. -/
def names : List String :=
  ["workspace_diagnostics", "strict", "sort", "jobs", "installed", "report_format"]

/-- Reads options from named values, which may have no other names. Of the choices, the policy is
looked at first; whether a name is one of an option is looked at last. -/
def ofEntries (entries : List (String × Value)) : Except Fault Options := do
  let isSet (name : String) : Bool := ((entries.lookup name).map Value.isTruthy).getD false
  let diagnostics ← (entries.lookup "workspace_diagnostics").mapM DiagnosticPolicy.ofValue
  let format ← (entries.lookup "report_format").mapM ReportFormat.ofValue
  match entries.find? fun entry => !names.contains entry.1 with
  | some (name, _) => throw (.unknownParameter "RunOptions.__init__" name)
  | none =>
    return ⟨diagnostics, isSet "strict", isSet "sort", (entries.lookup "jobs").getD .null,
      isSet "installed", format.getD .text⟩

/-- The settings that options override; an option that is not given leaves its place empty. -/
def overrides (options : Options) : List (String × Value) :=
  [("workspace_diagnostics",
      (options.diagnostics.map fun policy => Value.text policy.word).getD .null),
    ("isolate_failures", if options.strict then .bool false else .null),
    ("sort_findings", if options.sort then .bool true else .null), ("jobs", options.jobs)]

end Options

end WorkspaceLint
