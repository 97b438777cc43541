import WorkspaceLint.Fault.Text
import WorkspaceLint.Validation

/-!
# Findings

A finding is what a checker reports: an issue at a line and a column of a source file, with a code
that identifies the rule and a message. Lines and columns count from one. The place of a finding is
a value of its own, so that a finding made at a place keeps the place unchanged.
-/

namespace WorkspaceLint

/-- A line and a column in a source file. -/
structure SourceLocation where
  path : String
  line : Int
  column : Int
  deriving Repr, DecidableEq, Inhabited

/-- An issue reported against one source file. -/
structure Finding where
  path : String
  line : Int
  column : Int
  code : String
  message : String
  deriving Repr, DecidableEq, Inhabited

namespace SourceLocation

/-- The name that validation has for the record. -/
def recordName : String := "Location"

/-- Reads a place from named values; other names are ignored. -/
def ofEntries (entries : List (String × Value)) : Validated SourceLocation :=
  open Validation in
  (((Validated.start SourceLocation.mk).apply
    (field entries "path" none (single readText))).apply
    (field entries "line" none (single readPositive))).apply
    (field entries "column" (some 1) (single readPositive))

/-- The place at a line and a column of a path. -/
def ofPosition (path : String) (line column : Value) : Validated SourceLocation :=
  ofEntries [("path", .text path), ("line", line), ("column", column)]

end SourceLocation

namespace Finding

/-- The name that validation has for the record. -/
def recordName : String := "Finding"

/-- Reads a finding from named values; other names are ignored. -/
def ofEntries (entries : List (String × Value)) : Validated Finding :=
  open Validation in
  (((((Validated.start Finding.mk).apply
    (field entries "path" none (single readText))).apply
    (field entries "line" none (single readPositive))).apply
    (field entries "column" (some 1) (single readPositive))).apply
    (field entries "code" none (single readText))).apply
    (field entries "message" none (single readText))

/-- A finding at a place with a code and a message of any kind, which have to be texts. -/
def ofLocation (location : SourceLocation) (code message : Value) : Validated Finding :=
  ofEntries [("path", .text location.path), ("line", .int location.line),
    ("column", .int location.column), ("code", code), ("message", message)]

/-- The place of a finding. -/
def location (finding : Finding) : SourceLocation := ⟨finding.path, finding.line, finding.column⟩

/-- Whether a finding comes before another, or is level with it, when findings are sorted: by line,
then by column, then by code. -/
def precedes (a b : Finding) : Bool :=
  a.line < b.line || (a.line = b.line
    && (a.column < b.column || (a.column = b.column && decide (a.code ≤ b.code))))

/-- Findings sorted by line, column and code; those that are level keep their order. -/
def sorted (findings : List Finding) : List Finding := findings.mergeSort precedes

/-- The issue of changing a finding: nothing about one can be changed. -/
def changeIssue (field : String) : Issue := ⟨[.field field], .frozen⟩

end Finding

/-- The fault that a record with issues amounts to. -/
def Fault.ofIssues (issues : List Issue) (record : String) : Fault :=
  Fault.withMessage "ValidationError" (Issue.headline issues record)

end WorkspaceLint
