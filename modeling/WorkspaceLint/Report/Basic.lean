import WorkspaceLint.Analysis.Result
import WorkspaceLint.Json.Writer

/-!
# Reports

A report groups the findings of a run by project and leaves out projects without any. The path of a
project is shown relative to the workspace and the path of a finding relative to its project. The
report has two forms that carry the same groups: lines of text, where a group is a blank line, a
header, another blank line and a line for each finding, and a JSON document.
-/

namespace WorkspaceLint.Report

/-- A path without the directory it lies under. The comparison is one of texts: the path has to
begin with the directory and a slash, and an empty directory is none. -/
def relativize (path root : String) : String :=
  let directory := root.toList ++ ['/']
  if root != "" && directory.isPrefixOf path.toList then
    String.ofList (path.toList.drop directory.length)
  else path

/-! ## Groups -/

/-- A finding as a report shows it. -/
structure Line where
  path : String
  line : Int
  column : Int
  code : String
  message : String
  deriving Repr, DecidableEq, Inhabited

/-- The findings of one project as a report shows them. -/
structure Group where
  project : String
  lines : List Line
  deriving Repr, DecidableEq, Inhabited

/-- A finding as a report shows it that is made in a project with the given directory. -/
def lineOf (root : String) (finding : Finding) : Line :=
  ⟨relativize finding.path root, finding.line, finding.column, finding.code, finding.message⟩

/-- The findings of a project as a report shows them. -/
def groupOf (root : String) (result : ProjectResult) : Group :=
  ⟨relativize result.project.path root, result.findings.map (lineOf result.project.root)⟩

/-- The groups of a run's result. -/
def groups (result : AnalysisResult) : List Group :=
  (result.projects.filter fun project => !project.findings.isEmpty).map
    (groupOf result.workspace.root)

/-! ## Text -/

/-- The text of a finding. -/
def Line.text (line : Line) : String :=
  line.path ++ ", line " ++ toString line.line ++ " " ++ line.code ++ ": " ++ line.message

/-- The lines of a project with at least one finding; a project without any has none. -/
def projectLines (root : String) (result : ProjectResult) : List String :=
  if result.findings.isEmpty then []
  else
    ["", "In " ++ relativize result.project.path root ++ ":", ""]
      ++ result.findings.map fun finding => (lineOf result.project.root finding).text

/-- The lines of a report. -/
def textLines (result : AnalysisResult) : List String :=
  result.projects.flatMap (projectLines result.workspace.root)

/-! ## JSON -/

/-- The JSON value of a finding. -/
def Line.json (line : Line) : Json :=
  .object [("path", .text line.path), ("line", .int line.line), ("column", .int line.column),
    ("code", .text line.code), ("message", .text line.message)]

/-- The JSON value of a group. -/
def Group.json (group : Group) : Json :=
  .object [("project", .text group.project), ("findings", .list (group.lines.map Line.json))]

/-- The JSON value of a report. -/
def json (result : AnalysisResult) : Json :=
  .object [("workspace", .text result.workspace.path),
    ("projects", .list ((groups result).map Group.json))]

/-- The JSON document of a report, on one line or with the given number of blanks for each level. -/
def jsonText (indent : Option Nat) (result : AnalysisResult) : String :=
  Json.write indent (json result)

/-- The number of blanks for each level in a report that is printed. -/
def printedIndent : Option Nat := some 2

/-- The fault of an indentation that is no size. -/
def noIndent (reason : String) : Fault := .withMessage "OverflowError" reason

/-- The indentation that a value asks for: none at all, or a whole number of blanks. -/
def indentOf : Value → Except Fault (Option Nat)
  | .null => .ok none
  | .bool value => .ok (some (if value then 1 else 0))
  | .int count =>
    if count < 0 then .error (noIndent "can't convert negative int to unsigned")
    else if count ≥ 18446744073709551616 then .error (noIndent "int too big to convert")
    else .ok (some count.toNat)
  | value =>
    .error <| .withMessage "TypeError"
      ("argument 'indent': '" ++ value.kindName ++ "' object cannot be interpreted as an integer")

end WorkspaceLint.Report
