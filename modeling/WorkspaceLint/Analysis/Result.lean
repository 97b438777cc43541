import WorkspaceLint.Workspace.Basic

/-!
# Results of a run

A run has a result for each project, in the order of the workspace: the findings that were accepted,
the failures of checkers, and the findings that were rejected because they concern no unit of the
project.
-/

namespace WorkspaceLint

/-- A checker failed on a unit. -/
structure Failure where
  checker : String
  path : String
  fault : Fault
  deriving Repr, Inhabited, BEq

/-- The account of a failure. -/
def Failure.render (failure : Failure) : String :=
  "Checker " ++ failure.checker ++ " failed on " ++ failure.path ++ ": " ++ failure.fault.summary

/-- A finding that concerns no unit of the project whose analysis it came from. -/
structure Rejection where
  checker : String
  project : String
  finding : Finding
  deriving Repr, Inhabited, BEq

/-- The account of a rejection. -/
def Rejection.render (rejection : Rejection) : String :=
  "Checker " ++ rejection.checker ++ " reported " ++ rejection.finding.code ++ " at "
    ++ rejection.finding.path ++ ", which is not part of project " ++ rejection.project
    ++ "; finding rejected"

/-- What came of one or more visits. -/
structure Outcome where
  findings : List Finding
  failures : List Failure
  rejections : List Rejection
  deriving Repr, Inhabited, BEq

namespace Outcome

/-- The outcome of no visit. -/
def empty : Outcome := ⟨[], [], []⟩

/-- Two outcomes, one after the other. -/
def append (a b : Outcome) : Outcome :=
  ⟨a.findings ++ b.findings, a.failures ++ b.failures, a.rejections ++ b.rejections⟩

/-- Several outcomes, one after the other. -/
def concat (outcomes : List Outcome) : Outcome := outcomes.foldr append empty

end Outcome

/-- What came of the analysis of a project. -/
structure ProjectResult where
  project : Project
  findings : List Finding
  failures : List Failure
  rejections : List Rejection
  deriving Repr, Inhabited, BEq

/-- The result for a project with the given outcome. -/
def ProjectResult.of (project : Project) (outcome : Outcome) : ProjectResult :=
  ⟨project, outcome.findings, outcome.failures, outcome.rejections⟩

/-- What came of a run. -/
structure AnalysisResult where
  workspace : Workspace
  projects : List ProjectResult
  deriving Repr, Inhabited, BEq

namespace AnalysisResult

/-- All accepted findings, in the order of the run. -/
def findings (result : AnalysisResult) : List Finding := result.projects.flatMap (·.findings)

/-- The number of accepted findings. -/
def findingCount (result : AnalysisResult) : Nat := result.findings.length

/-- All failures, in the order of the run. -/
def failures (result : AnalysisResult) : List Failure := result.projects.flatMap (·.failures)

/-- All rejections, in the order of the run. -/
def rejections (result : AnalysisResult) : List Rejection := result.projects.flatMap (·.rejections)

end AnalysisResult

end WorkspaceLint
