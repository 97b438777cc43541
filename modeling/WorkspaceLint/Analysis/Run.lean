import WorkspaceLint.Analysis.Result
import WorkspaceLint.Checker.Basic
import WorkspaceLint.Settings

/-!
# Runs

A run takes every checker to every unit of every project, in the order project, unit, checker. A
checker that fails on a unit is recorded and the run goes on, or, when failures are not isolated,
the run stops with that failure. A fault that is a request to stop ends the run in either case.

## Shape of a run

With one job the units of a project are analysed one after another, and the state of the checkers
passes from visit to visit. With more jobs the units of a project complete in some order that the
run does not choose; it is given here as an argument, for each place in the workspace on its own.
What came of a unit is recorded under the unit's index as it completes, and the records are put in
the order of the indices at the end.
-/

namespace WorkspaceLint

/-- Why a run has no result: a checker failed while failures are not isolated, or it raised a fault
that is a request to stop. -/
inductive RunFault where
  | failed (failure : Failure)
  | stopped (fault : Fault)
  deriving Repr, Inhabited, BEq

/-- The account of a run that a failure ended. -/
def Failure.abortMessage (failure : Failure) : String :=
  "Checker " ++ failure.checker ++ " failed on " ++ failure.path ++ ": " ++ failure.fault.text

/-- How a run treats failures, findings and time. -/
structure RunMode where
  isolateFailures : Bool
  sortFindings : Bool
  jobs : Int
  deriving Repr, DecidableEq, Inhabited

namespace RunMode

/-- The mode that settings ask for. -/
def ofSettings (settings : Settings) : RunMode :=
  ⟨settings.isolateFailures, settings.sortFindings, settings.jobs⟩

/-- The mode of a run for which nothing is asked. -/
def standard : RunMode := ofSettings .standard

/-- The names of what a mode consists of. -/
def names : List String := ["isolate_failures", "sort_findings", "jobs"]

/-- The fault of a number of jobs with which nothing would be done. -/
def tooFewJobs : Fault := .withMessage "ValueError" "jobs must be at least 1"

/-- A number of jobs, if it is large enough. -/
def atLeastOne (number : Int) : Except Fault Int :=
  if number < 1 then .error tooFewJobs else .ok number

/-- The number of jobs that a value stands for. A number with a fraction allows several at a time,
as two jobs do. -/
def jobsOf : Value → Except Fault Int
  | .int number => atLeastOne number
  | .bool value => atLeastOne (if value then 1 else 0)
  | .float number =>
    if number.isBelow 1 then .error tooFewJobs else .ok (number.toInt?.getD 2)
  | value =>
    .error <| .withMessage "TypeError"
      ("'<' not supported between instances of '" ++ value.kindName ++ "' and 'int'")

/-- Reads a mode from named values, which may have no other names. -/
def ofEntries (entries : List (String × Value)) : Except Fault RunMode :=
  let isSet (name : String) (otherwise : Bool) : Bool :=
    ((entries.lookup name).map Value.isTruthy).getD otherwise
  match entries.find? fun entry => !names.contains entry.1 with
  | some (name, _) => .error (.unknownParameter "AnalysisRunner.__init__" name)
  | none =>
    (jobsOf ((entries.lookup "jobs").getD (.int standard.jobs))).map fun jobs =>
      ⟨isSet "isolate_failures" standard.isolateFailures,
        isSet "sort_findings" standard.sortFindings, jobs⟩

end RunMode

/-- A step of a run: what came of it, and the state of the checkers after it. -/
abbrev Stepped (σ α : Type) := Except RunFault α × σ

namespace Analysis

variable {σ : Type}

/-- Findings sorted into those that concern a unit of the project and those that do not. -/
def separate (project : Project) (checker : String) (findings : List Finding) : Outcome :=
  ⟨findings.filter fun finding => project.owns finding.path, [],
    (findings.filter fun finding => !project.owns finding.path).map fun finding =>
      ⟨checker, project.path, finding⟩⟩

/-- What comes of a visit. -/
def outcomeOf (isolate : Bool) (project : Project) (unit : SourceUnit) (checker : String)
    (visit : Visit) : Except RunFault Outcome :=
  match visit.collect with
  | .ok findings => .ok (separate project checker findings)
  | .error fault =>
    let failure : Failure := ⟨checker, unit.path, fault⟩
    if !fault.isOrdinary then .error (.stopped fault)
    else if isolate then .ok ⟨[], [failure], []⟩
    else .error (.failed failure)

/-- Takes checkers to a unit one after another. -/
def visitAll (isolate : Bool) (project : Project) (unit : SourceUnit) :
    List (Checker σ) → σ → Stepped σ Outcome
  | [], state => (.ok .empty, state)
  | checker :: checkers, state =>
    let (visit, state) := checker.visit unit state
    match outcomeOf isolate project unit checker.name visit with
    | .error fault => (.error fault, state)
    | .ok outcome =>
      let (rest, state) := visitAll isolate project unit checkers state
      (rest.map outcome.append, state)

/-- An outcome with its findings sorted, when they are to be. -/
def arrange (sort : Bool) (outcome : Outcome) : Outcome :=
  if sort then { outcome with findings := Finding.sorted outcome.findings } else outcome

/-- Analyses a unit. -/
def runUnit (mode : RunMode) (checkers : List (Checker σ)) (project : Project) (unit : SourceUnit)
    (state : σ) : Stepped σ Outcome :=
  let (outcome, state) := visitAll mode.isolateFailures project unit checkers state
  (outcome.map (arrange mode.sortFindings), state)

/-! ## One unit after another -/

/-- Analyses units one after another. -/
def runUnits (mode : RunMode) (checkers : List (Checker σ)) (project : Project) :
    List SourceUnit → σ → Stepped σ (List Outcome)
  | [], state => (.ok [], state)
  | unit :: units, state =>
    match runUnit mode checkers project unit state with
    | (.error fault, state) => (.error fault, state)
    | (.ok outcome, state) =>
      let (rest, state) := runUnits mode checkers project units state
      (rest.map (outcome :: ·), state)

/-! ## Several units at a time -/

/-- Analyses the units with the given indices in this order, whatever comes of them; every unit that
was begun is brought to an end. -/
def complete (mode : RunMode) (checkers : List (Checker σ)) (project : Project) :
    (order : List Nat) → σ → List (Nat × Except RunFault Outcome) × σ
  | [], state => ([], state)
  | index :: order, state =>
    match project.units[index]? with
    | none => complete mode checkers project order state
    | some unit =>
      let (outcome, state) := runUnit mode checkers project unit state
      let (rest, state) := complete mode checkers project order state
      ((index, outcome) :: rest, state)

/-- Takes up completed units in the order of their completion; the first that has no outcome
decides. -/
def drain : List (Nat × Except RunFault Outcome) → Except RunFault (List (Nat × Outcome))
  | [] => .ok []
  | (_, .error fault) :: _ => .error fault
  | (index, .ok outcome) :: rest => (drain rest).map ((index, outcome) :: ·)

/-- The recorded outcomes in the order of their indices. -/
def inOrder (recorded : List (Nat × Outcome)) : List Outcome :=
  (recorded.mergeSort fun a b => a.1 ≤ b.1).map (·.2)

/-- Analyses the units of a project several at a time, when they complete in the given order. -/
def runUnitsConcurrently (mode : RunMode) (checkers : List (Checker σ)) (project : Project)
    (order : List Nat) (state : σ) : Stepped σ (List Outcome) :=
  let (completed, state) := complete mode checkers project order state
  ((drain completed).map inOrder, state)

/-! ## Projects and workspaces -/

/-- In which order the units of a project complete, by the place of the project in its workspace. -/
abbrev CompletionOrder := Nat → Project → List Nat

/-- Whether the units of a project are analysed several at a time. -/
def isConcurrent (mode : RunMode) (project : Project) : Bool :=
  mode.jobs > 1 && project.units.length > 1

/-- The order of completion in which no unit overtakes another. -/
def submissionOrder (project : Project) : List Nat := List.range project.units.length

/-- Analyses a project, whose units complete in the given order if several are analysed at a time.
-/
def runProject (mode : RunMode) (checkers : List (Checker σ)) (order : List Nat)
    (project : Project) (state : σ) : Stepped σ ProjectResult :=
  let (outcomes, state) :=
    if isConcurrent mode project then runUnitsConcurrently mode checkers project order state
    else runUnits mode checkers project project.units state
  (outcomes.map fun outcomes => .of project (Outcome.concat outcomes), state)

/-- Analyses projects one after another; the first has the given place in the workspace. -/
def runProjects (mode : RunMode) (checkers : List (Checker σ)) (order : CompletionOrder) :
    (place : Nat) → List Project → σ → Stepped σ (List ProjectResult)
  | _, [], state => (.ok [], state)
  | place, project :: projects, state =>
    match runProject mode checkers (order place project) project state with
    | (.error fault, state) => (.error fault, state)
    | (.ok result, state) =>
      let (rest, state) := runProjects mode checkers order (place + 1) projects state
      (rest.map (result :: ·), state)

/-- Analyses a workspace. -/
def run (mode : RunMode) (checkers : List (Checker σ)) (order : CompletionOrder)
    (workspace : Workspace) (state : σ) : Stepped σ AnalysisResult :=
  let (results, state) := runProjects mode checkers order 0 workspace.projects state
  (results.map fun results => ⟨workspace, results⟩, state)

end Analysis

end WorkspaceLint
