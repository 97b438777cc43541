import Mathlib.Data.List.Basic
import WorkspaceLint.Proofs.Analysis.Chronicle

/-!
# What a sequential run accounts for

With one job at a time a run is its chronicle: it makes the visits of the chronicle, ends where the
chronicle ends, and every event contributes to the result of its project exactly once.

## Shape of the proof

* `visitAll_eq_chronicle` — the checkers of one unit; the induction is on the checkers.
* `runUnits_arranged`     — the units of a project, on top of it.
* `runProjects_arranged`  — the projects, on top of these; events are told apart by their places.

Sorting rearranges the findings of a unit and touches nothing else. What an outcome holds is said in
two ways: `Outcome.IsArranged` takes the events apart unit by unit, and `Outcome.Accounts` follows
from it and forgets the units, so that it holds up to the order of the findings when they are
sorted, and on the nose when they are not.
-/

namespace WorkspaceLint

variable {σ : Type}

/-! ## Accounts -/

/-- An outcome consists of what some events add to their project. -/
structure Outcome.Accounts (sort : Bool) (outcome : Outcome) (events : List (Event σ)) : Prop where
  findings_perm : outcome.findings.Perm (events.flatMap Event.accepted)
  findings_eq : sort = false → outcome.findings = events.flatMap Event.accepted
  failures_eq : outcome.failures = events.flatMap Event.failures
  rejections_eq : outcome.rejections = events.flatMap Event.rejected

/-- The outcome that a project's result holds. -/
def ProjectResult.outcome (result : ProjectResult) : Outcome :=
  ⟨result.findings, result.failures, result.rejections⟩

namespace Outcome.Accounts

variable {sort : Bool} {a b : Outcome} {before after : List (Event σ)}

/-- The empty outcome accounts for no visits. -/
theorem nil : Outcome.empty.Accounts sort ([] : List (Event σ)) :=
  ⟨.refl _, fun _ => rfl, rfl, rfl⟩

/-- Outcomes that account for two runs of visits account, one after the other, for both runs in a
row. -/
theorem append (ha : a.Accounts sort before) (hb : b.Accounts sort after) :
    (a.append b).Accounts sort (before ++ after) where
  findings_perm := by
    rw [List.flatMap_append]
    exact ha.findings_perm.append hb.findings_perm
  findings_eq h := by
    rw [List.flatMap_append, ← ha.findings_eq h, ← hb.findings_eq h]
    rfl
  failures_eq := by
    rw [List.flatMap_append, ← ha.failures_eq, ← hb.failures_eq]
    rfl
  rejections_eq := by
    rw [List.flatMap_append, ← ha.rejections_eq, ← hb.rejections_eq]
    rfl

/-- Sorting the findings of a unit loses none and adds none. -/
theorem arrange (events : List (Event σ)) :
    (Analysis.arrange sort (Outcome.ofEvents events)).Accounts sort events := by
  cases sort with
  | false => exact ⟨.refl _, fun _ => rfl, rfl, rfl⟩
  | true => exact ⟨List.mergeSort_perm _ _, fun h => absurd h (by simp), rfl, rfl⟩

end Outcome.Accounts

/-! ## Accounts unit by unit -/

/-- Events taken apart unit by unit: every checker was taken to each unit in its turn. -/
structure UnitByUnit (checkers : List (Checker σ)) (place : Nat) (project : Project)
    (units : List SourceUnit) (events : List (Event σ)) (pieces : List (List (Event σ))) :
    Prop where
  flatten_eq : pieces.flatten = events
  visits_eq : pieces.map (List.map Event.invocation) = units.map (visitsOf checkers place project)

/-- Events can be taken apart unit by unit in one way only. -/
theorem UnitByUnit.unique {checkers : List (Checker σ)} {place : Nat} {project : Project}
    {units : List SourceUnit} {events : List (Event σ)} {pieces others : List (List (Event σ))}
    (h : UnitByUnit checkers place project units events pieces)
    (hothers : UnitByUnit checkers place project units events others) : pieces = others := by
  refine List.eq_iff_flatten_eq.mpr ⟨h.flatten_eq.trans hothers.flatten_eq.symm, ?_⟩
  have hlengths := congrArg (List.map List.length) (h.visits_eq.trans hothers.visits_eq.symm)
  simpa [List.map_map, Function.comp_def] using hlengths

/-- The outcomes of units whose events are the given pieces. -/
def arrangedOutcomes (sort : Bool) (pieces : List (List (Event σ))) : List Outcome :=
  pieces.map fun piece => Analysis.arrange sort (.ofEvents piece)

/-- Outcomes of units consist of what the events of the units add. -/
theorem Outcome.Accounts.arrangedOutcomes (sort : Bool) (pieces : List (List (Event σ))) :
    (Outcome.concat (WorkspaceLint.arrangedOutcomes sort pieces)).Accounts sort
      pieces.flatten := by
  induction pieces with
  | nil => exact .nil
  | cons piece pieces ih => exact (Outcome.Accounts.arrange piece).append ih

/-- An outcome of some units consists of what the events add, arranged unit by unit. -/
def Outcome.IsArranged (sort : Bool) (checkers : List (Checker σ)) (place : Nat)
    (project : Project) (outcome : Outcome) (events : List (Event σ)) : Prop :=
  ∃ pieces, UnitByUnit checkers place project project.units events pieces
    ∧ outcome = Outcome.concat (arrangedOutcomes sort pieces)

/-- An outcome that is arranged by the visits accounts for them. -/
theorem Outcome.IsArranged.accounts {sort : Bool} {checkers : List (Checker σ)} {place : Nat}
    {project : Project} {outcome : Outcome} {events : List (Event σ)}
    (h : outcome.IsArranged sort checkers place project events) :
    outcome.Accounts sort events := by
  obtain ⟨pieces, hpieces, rfl⟩ := h
  rw [← hpieces.flatten_eq]
  exact Outcome.Accounts.arrangedOutcomes sort pieces

namespace Analysis

/-! ## The checkers of a unit -/

/-- What comes of a visit is what its event adds, unless the event ends the run. -/
theorem outcomeOf_eq (isolate : Bool) (event : Event σ) :
    outcomeOf isolate event.invocation.project event.invocation.unit event.invocation.checker.name
        event.visit
      = match event.haltsWith isolate with
        | some fault => .error fault
        | none => .ok (Outcome.ofEvents [event]) := by
  obtain ⟨⟨place, project, unit, checker⟩, ⟨findings, ending⟩⟩ := event
  cases ending with
  | finished =>
    simp [outcomeOf, Visit.collect, separate, Event.haltsWith, Event.fault?, Outcome.ofEvents,
      Event.accepted, Event.rejected, Event.failures, Event.counted]
  | raised fault =>
    cases hordinary : fault.isOrdinary <;> cases isolate <;>
      simp [outcomeOf, Visit.collect, Event.haltsWith, Event.fault?, Outcome.ofEvents, hordinary,
        Event.accepted, Event.rejected, Event.failures, Event.counted, Event.failureOf]
  | strayed kind =>
    cases hordinary : (strayFault kind).isOrdinary <;> cases isolate <;>
      simp [outcomeOf, Visit.collect, Event.haltsWith, Event.fault?, Outcome.ofEvents, hordinary,
        Event.accepted, Event.rejected, Event.failures, Event.counted, Event.failureOf]

/-- The first of several checkers that are taken to a unit: the others follow unless its visit ends
the run. -/
theorem visitAll_cons (isolate : Bool) (place : Nat) (project : Project) (unit : SourceUnit)
    (checker : Checker σ) (checkers : List (Checker σ)) (state : σ) :
    let invocation : Invocation σ := ⟨place, project, unit, checker⟩
    visitAll isolate project unit (checker :: checkers) state
      = match (invocation.event state).haltsWith isolate with
        | some fault => (.error fault, invocation.after state)
        | none =>
          let (rest, state') := visitAll isolate project unit checkers (invocation.after state)
          (rest.map (Outcome.ofEvents [invocation.event state]).append, state') := by
  intro invocation
  have hstep := outcomeOf_eq isolate (invocation.event state)
  simp only [Invocation.event, invocation] at hstep
  simp only [visitAll, hstep, Invocation.event, invocation]
  split <;> split <;> simp_all [Invocation.after]

/-- Taking the checkers to a unit is the chronicle of these visits. -/
theorem visitAll_eq_chronicle (isolate : Bool) (place : Nat) (project : Project)
    (unit : SourceUnit) (checkers : List (Checker σ)) (state : σ) :
    visitAll isolate project unit checkers state
      = (chronicle isolate (visitsOf checkers place project unit) state).result
          Outcome.ofEvents := by
  induction checkers generalizing state with
  | nil => rfl
  | cons checker checkers ih =>
    let invocation : Invocation σ := ⟨place, project, unit, checker⟩
    have hvisits : visitsOf (checker :: checkers) place project unit
        = invocation :: visitsOf checkers place project unit := rfl
    rw [visitAll_cons isolate place, hvisits]
    -- A visit that is stopped ends the course; after any other one the rest is a course too.
    cases hhalt : (invocation.event state).haltsWith isolate with
    | some fault =>
      rw [chronicle_cons_of_halt hhalt]
      rfl
    | none =>
      rw [chronicle_cons hhalt, ih]
      cases hrest : (chronicle isolate (visitsOf checkers place project unit)
          (invocation.after state)).halt with
      | some fault =>
        rw [Chronicle.result_of_halt hrest, Chronicle.result_of_halt rfl]
        rfl
      | none =>
        rw [Chronicle.result_of_completed hrest, Chronicle.result_of_completed rfl]
        exact congrArg (fun outcome => (Except.ok outcome, _)) (Outcome.ofEvents_cons _ _).symm

/-- Analysing a unit is the chronicle of its visits, with the findings arranged at the end. -/
theorem runUnit_eq_chronicle (mode : RunMode) (place : Nat) (checkers : List (Checker σ))
    (project : Project) (unit : SourceUnit) (state : σ) :
    runUnit mode checkers project unit state
      = (chronicle mode.isolateFailures (visitsOf checkers place project unit) state).result
          fun events => arrange mode.sortFindings (Outcome.ofEvents events) := by
  simp only [runUnit, visitAll_eq_chronicle mode.isolateFailures place]
  cases hhalt : (chronicle mode.isolateFailures (visitsOf checkers place project unit) state).halt with
  | some fault =>
    rw [Chronicle.result_of_halt hhalt, Chronicle.result_of_halt hhalt]
    rfl
  | none =>
    rw [Chronicle.result_of_completed hhalt, Chronicle.result_of_completed hhalt]
    rfl

/-! ## The units of a project -/

/-- The visits to a list of units are those to its first unit and then those to the others. -/
theorem visitsToUnits_cons (checkers : List (Checker σ)) (place : Nat) (project : Project)
    (unit : SourceUnit) (units : List SourceUnit) :
    visitsToUnits checkers place project (unit :: units)
      = visitsOf checkers place project unit ++ visitsToUnits checkers place project units :=
  List.flatMap_cons

/-- Analysing units one after another is the chronicle of their visits, and the outcome of each unit
is what its own events add, arranged. -/
theorem runUnits_arranged (mode : RunMode) (place : Nat) (checkers : List (Checker σ))
    (project : Project) (units : List SourceUnit) (state : σ) :
    let course := chronicle mode.isolateFailures (visitsToUnits checkers place project units) state
    ∃ pieces,
      runUnits mode checkers project units state
        = course.result (fun _ => arrangedOutcomes mode.sortFindings pieces)
      ∧ (course.halt = none →
          UnitByUnit checkers place project units course.events pieces) := by
  dsimp only
  induction units generalizing state with
  | nil => exact ⟨[], rfl, fun _ => ⟨rfl, rfl⟩⟩
  | cons unit units ih =>
    have hunit := runUnit_eq_chronicle mode place checkers project unit state
    rw [visitsToUnits_cons]
    set first := chronicle mode.isolateFailures (visitsOf checkers place project unit) state
      with hfirst
    -- The events of a unit that was completed are a piece of their own.
    cases hhalt : first.halt with
    | some fault =>
      rw [Chronicle.result_of_halt hhalt] at hunit
      rw [chronicle_append_of_halt hhalt]
      refine ⟨[], ?_, fun h => absurd (hhalt.symm.trans h) (by simp)⟩
      rw [Chronicle.result_of_halt hhalt]
      simp only [runUnits, hunit]
    | none =>
      rw [Chronicle.result_of_completed hhalt] at hunit
      obtain ⟨pieces, hrun, hpieces⟩ := ih first.state
      rw [chronicle_append hhalt, ← hfirst]
      refine ⟨first.events :: pieces, ?_, fun h => ⟨?_, ?_⟩⟩
      · simp only [runUnits, hunit, hrun, Chronicle.result]
        split <;> rfl
      · rw [List.flatten_cons, (hpieces h).flatten_eq]
      · rw [List.map_cons, List.map_cons, chronicle_events_of_completed hhalt,
          (hpieces h).visits_eq]

/-- What comes of units analysed one after another consists of what the events of their chronicle
add. -/
theorem runUnits_accounts (mode : RunMode) (place : Nat) (checkers : List (Checker σ))
    (project : Project) (units : List SourceUnit) (state : σ) :
    let course := chronicle mode.isolateFailures (visitsToUnits checkers place project units) state
    ∃ outcomes,
      runUnits mode checkers project units state = course.result (fun _ => outcomes)
      ∧ (course.halt = none →
          (Outcome.concat outcomes).Accounts mode.sortFindings course.events) := by
  obtain ⟨pieces, hrun, hpieces⟩ := runUnits_arranged mode place checkers project units state
  refine ⟨_, hrun, fun h => ?_⟩
  rw [← (hpieces h).flatten_eq]
  exact Outcome.Accounts.arrangedOutcomes mode.sortFindings pieces

/-! ## The projects of a workspace -/

/-- The events that belong to the project at a place. -/
def eventsAt (place : Nat) (events : List (Event σ)) : List (Event σ) :=
  events.filter fun event => event.invocation.place == place

/-- The events at a place are taken from each part of a list in its turn. -/
theorem eventsAt_append (place : Nat) (before after : List (Event σ)) :
    eventsAt place (before ++ after) = eventsAt place before ++ eventsAt place after :=
  List.filter_append ..

/-- Nothing is left out of events that are all at the place. -/
theorem eventsAt_eq_self {place : Nat} {events : List (Event σ)}
    (h : ∀ event ∈ events, event.invocation.place = place) : eventsAt place events = events :=
  List.filter_eq_self.mpr fun event hmem => beq_iff_eq.mpr (h event hmem)

/-- Nothing is left of events that are all at other places. -/
theorem eventsAt_eq_nil {place : Nat} {events : List (Event σ)}
    (h : ∀ event ∈ events, event.invocation.place ≠ place) : eventsAt place events = [] :=
  List.filter_eq_nil_iff.mpr fun event hmem => by simpa using h event hmem

/-- Where the events of one project are followed by events of later ones, the first are its own. -/
theorem eventsAt_append_first {place : Nat} {first rest : List (Event σ)}
    (hfirst : ∀ event ∈ first, event.invocation.place = place)
    (hrest : ∀ event ∈ rest, place + 1 ≤ event.invocation.place) :
    eventsAt place (first ++ rest) = first := by
  rw [eventsAt_append, eventsAt_eq_self hfirst, eventsAt_eq_nil, List.append_nil]
  intro event hmem
  have := hrest event hmem
  omega

/-- Where the events of one project are followed by events of later ones, these are among the rest.
-/
theorem eventsAt_append_later {place : Nat} {first : List (Event σ)}
    (hfirst : ∀ event ∈ first, event.invocation.place = place) (rest : List (Event σ))
    (index : Nat) :
    eventsAt (place + 1 + index) (first ++ rest) = eventsAt (place + 1 + index) rest := by
  rw [eventsAt_append, eventsAt_eq_nil, List.nil_append]
  intro event hmem
  have := hfirst event hmem
  omega

/-- Every visit to the units of a project is at the place of the project. -/
theorem place_of_mem_visitsToUnits {checkers : List (Checker σ)} {place : Nat} {project : Project}
    {units : List SourceUnit} {invocation : Invocation σ}
    (h : invocation ∈ visitsToUnits checkers place project units) : invocation.place = place := by
  obtain ⟨unit, _, hmem⟩ := List.mem_flatMap.mp h
  obtain ⟨checker, _, rfl⟩ := List.mem_map.mp hmem
  rfl

/-- The visits to the projects from a place on are at that place or behind it. -/
theorem place_le_of_mem_visitsToProjects {checkers : List (Checker σ)} {place : Nat}
    {projects : List Project} {invocation : Invocation σ}
    (h : invocation ∈ visitsToProjects checkers place projects) : place ≤ invocation.place := by
  induction projects generalizing place with
  | nil => exact absurd h (by simp [visitsToProjects])
  | cons project projects ih =>
    rcases List.mem_append.mp h with hmem | hmem
    · exact Nat.le_of_eq (place_of_mem_visitsToUnits hmem).symm
    · exact Nat.le_of_succ_le (ih hmem)

/-- The visit of an event was one of those to be made. -/
theorem invocation_mem_of_mem_events {isolate : Bool} {visits : List (Invocation σ)} {state : σ}
    {event : Event σ} (h : event ∈ (chronicle isolate visits state).events) :
    event.invocation ∈ visits :=
  chronicle_events_isPrefix.subset (List.mem_map_of_mem h)

/-- With one job at a time the units of a project are analysed one after another. -/
theorem isConcurrent_eq_false {mode : RunMode} (hjobs : mode.jobs = 1) (project : Project) :
    isConcurrent mode project = false := by
  simp [isConcurrent, hjobs]

/-- Analysing a project with one job at a time is the chronicle of its visits. -/
theorem runProject_arranged {mode : RunMode} (hjobs : mode.jobs = 1) (place : Nat)
    (checkers : List (Checker σ)) (order : List Nat) (project : Project) (state : σ) :
    let course :=
      chronicle mode.isolateFailures (visitsToUnits checkers place project project.units) state
    ∃ outcome,
      runProject mode checkers order project state
        = course.result (fun _ => ProjectResult.of project outcome)
      ∧ (course.halt = none →
          outcome.IsArranged mode.sortFindings checkers place project course.events) := by
  obtain ⟨pieces, hrun, hpieces⟩ :=
    runUnits_arranged mode place checkers project project.units state
  refine ⟨Outcome.concat (arrangedOutcomes mode.sortFindings pieces), ?_,
    fun h => ⟨pieces, hpieces h, rfl⟩⟩
  simp only [runProject, isConcurrent_eq_false hjobs, hrun, Chronicle.result, Bool.false_eq_true,
    if_false]
  split <;> rfl

/-- What the results of projects, the first of which has the given place, hold. -/
structure ResultsAccount (sort : Bool) (place : Nat) (projects : List Project)
    (results : List ProjectResult) (events : List (Event σ)) : Prop where
  projects_eq : results.map ProjectResult.project = projects
  accounts : ∀ (index : Nat) (result : ProjectResult), results[index]? = some result →
    result.outcome.Accounts sort (eventsAt (place + index) events)

/-- What the results of projects, the first of which has the given place, are put together from. -/
structure ResultsArranged (sort : Bool) (checkers : List (Checker σ)) (place : Nat)
    (projects : List Project) (results : List ProjectResult) (events : List (Event σ)) : Prop where
  projects_eq : results.map ProjectResult.project = projects
  arranged : ∀ (index : Nat) (result : ProjectResult), results[index]? = some result →
    result.outcome.IsArranged sort checkers (place + index) result.project
      (eventsAt (place + index) events)

/-- Results that are arranged by the visits account for them, project by project. -/
theorem ResultsArranged.account {sort : Bool} {checkers : List (Checker σ)} {place : Nat}
    {projects : List Project} {results : List ProjectResult} {events : List (Event σ)}
    (h : ResultsArranged sort checkers place projects results events) :
    ResultsAccount sort place projects results events :=
  ⟨h.projects_eq, fun index result hresult => (h.arranged index result hresult).accounts⟩

/-- Analysing projects one after another is the chronicle of their visits, and each result holds
what the events of its own project add. -/
theorem runProjects_arranged {mode : RunMode} (hjobs : mode.jobs = 1)
    (checkers : List (Checker σ)) (order : CompletionOrder) (place : Nat)
    (projects : List Project) (state : σ) :
    let course := chronicle mode.isolateFailures (visitsToProjects checkers place projects) state
    ∃ results,
      runProjects mode checkers order place projects state = course.result (fun _ => results)
      ∧ (course.halt = none →
          ResultsArranged mode.sortFindings checkers place projects results course.events) := by
  dsimp only
  induction projects generalizing place state with
  | nil => exact ⟨[], rfl, fun _ => ⟨rfl, by simp⟩⟩
  | cons project projects ih =>
    obtain ⟨outcome, hproject, harranged⟩ :=
      runProject_arranged hjobs place checkers (order place project) project state
    rw [visitsToProjects]
    set first := chronicle mode.isolateFailures
      (visitsToUnits checkers place project project.units) state with hfirst
    have hplaces : ∀ event ∈ first.events, event.invocation.place = place :=
      fun event hmem => place_of_mem_visitsToUnits (invocation_mem_of_mem_events hmem)
    cases hhalt : first.halt with
    | some fault =>
      rw [Chronicle.result_of_halt hhalt] at hproject
      rw [chronicle_append_of_halt hhalt]
      refine ⟨[], ?_, fun h => absurd (hhalt.symm.trans h) (by simp)⟩
      rw [Chronicle.result_of_halt hhalt]
      simp only [runProjects, hproject]
    | none =>
      rw [Chronicle.result_of_completed hhalt] at hproject
      obtain ⟨results, hrun, hrest⟩ := ih (place + 1) first.state
      rw [chronicle_append hhalt, ← hfirst]
      set rest := chronicle mode.isolateFailures
        (visitsToProjects checkers (place + 1) projects) first.state
      have hlater : ∀ event ∈ rest.events, place + 1 ≤ event.invocation.place :=
        fun event hmem => place_le_of_mem_visitsToProjects (invocation_mem_of_mem_events hmem)
      refine ⟨.of project outcome :: results, ?_, fun h => ⟨?_, ?_⟩⟩
      · simp only [runProjects, hproject, hrun, Chronicle.result]
        split <;> rfl
      · rw [List.map_cons, (hrest h).projects_eq]
        rfl
      · -- Events of the first project have its place, and all others have later ones.
        intro index result hresult
        cases index with
        | zero =>
          cases hresult
          rw [Nat.add_zero, eventsAt_append_first hplaces hlater]
          exact harranged hhalt
        | succ index =>
          rw [← Nat.succ_add_eq_add_succ, eventsAt_append_later hplaces]
          exact (hrest h).arranged index result hresult

/-- A run with one job at a time is the chronicle of the invocations of its workspace, and its
results are put together unit by unit. -/
theorem run_arranged (mode : RunMode) (hjobs : mode.jobs = 1) (checkers : List (Checker σ))
    (order : CompletionOrder) (workspace : Workspace) (state : σ) :
    let course := chronicle mode.isolateFailures (invocations checkers workspace) state
    ∃ results,
      run mode checkers order workspace state = course.result (fun _ => ⟨workspace, results⟩)
      ∧ (course.halt = none →
          ResultsArranged mode.sortFindings checkers 0 workspace.projects results
            course.events) := by
  obtain ⟨results, hrun, harranged⟩ :=
    runProjects_arranged hjobs checkers order 0 workspace.projects state
  refine ⟨results, ?_, harranged⟩
  simp only [run, hrun, Chronicle.result, invocations]
  split <;> rfl

/-- A run with one job at a time is the chronicle of the invocations of its workspace. -/
theorem run_accounts (mode : RunMode) (hjobs : mode.jobs = 1) (checkers : List (Checker σ))
    (order : CompletionOrder) (workspace : Workspace) (state : σ) :
    let course := chronicle mode.isolateFailures (invocations checkers workspace) state
    ∃ results,
      run mode checkers order workspace state = course.result (fun _ => ⟨workspace, results⟩)
      ∧ (course.halt = none →
          ResultsAccount mode.sortFindings 0 workspace.projects results course.events) := by
  obtain ⟨results, hrun, harranged⟩ := run_arranged mode hjobs checkers order workspace state
  exact ⟨results, hrun, fun h => (harranged h).account⟩

/-- Checkers that write down their visits leave the visits of the chronicle behind. -/
theorem run_logging {mode : RunMode} (hjobs : mode.jobs = 1) (checkers : List (Checker σ))
    (order : CompletionOrder) (workspace : Workspace) (state : σ) :
    (run mode (checkers.map Checker.logging) order workspace ([], state)).2.1
      = (chronicle mode.isolateFailures (invocations checkers workspace) state).events.map
          Event.entry := by
  obtain ⟨results, hrun, -⟩ :=
    run_accounts mode hjobs (checkers.map Checker.logging) order workspace ([], state)
  rw [hrun, invocations, visitsToProjects_logging]
  have hlog := chronicle_logging mode.isolateFailures (invocations checkers workspace) [] state
  exact congrArg Prod.fst hlog

/-! ## Isolated failures -/

/-- **Conservation of a sequential run with isolated failures.** The visits that are made, as
checkers would write them down, are the invocations of the workspace in their order, each once. If
none of them raises a request to stop, all are made, and the run has a result for each project that
holds what the events of the project add and nothing else: a visit with a fault adds one failure and
none of its findings, any other visit adds each of its findings once, to the findings or to the
rejections. Otherwise the first request to stop is the last visit that is made, and the run ends
with it. -/
theorem run_isolated_accounts (sort : Bool) (checkers : List (Checker σ)) (order : CompletionOrder)
    (workspace : Workspace) (state : σ) :
    let course := chronicle true (invocations checkers workspace) state
    (run ⟨true, sort, 1⟩ (checkers.map Checker.logging) order workspace ([], state)).2.1
      = course.events.map Event.entry
    ∧ match course.halt with
    | none =>
      course.events.map Event.invocation = invocations checkers workspace
      ∧ (∀ event ∈ course.events, ∀ fault ∈ event.fault?, fault.isOrdinary = true)
      ∧ ∃ results,
          run ⟨true, sort, 1⟩ checkers order workspace state
            = (.ok ⟨workspace, results⟩, course.state)
          ∧ ResultsAccount sort 0 workspace.projects results course.events
    | some halt =>
      course.events.map Event.invocation <+: invocations checkers workspace
      ∧ run ⟨true, sort, 1⟩ checkers order workspace state = (.error halt, course.state)
      ∧ ∃ earlier last fault, course.events = earlier ++ [last]
          ∧ last.visit.ending = .raised fault ∧ fault.isOrdinary = false ∧ halt = .stopped fault
          ∧ ∀ event ∈ earlier, event.haltsWith true = none := by
  intro course
  refine ⟨run_logging rfl checkers order workspace state, ?_⟩
  obtain ⟨results, hrun, haccounts⟩ :=
    run_accounts ⟨true, sort, 1⟩ rfl checkers order workspace state
  cases hhalt : course.halt with
  | none =>
    refine ⟨chronicle_events_of_completed hhalt, fun event hmem fault hfault =>
      Event.isOrdinary_of_haltsWith_isolated (haltsWith_of_completed hhalt event hmem) hfault,
      results, ?_, haccounts hhalt⟩
    rw [hrun, Chronicle.result_of_completed hhalt]
  | some halt =>
    -- With failures isolated, only a fault that is not ordinary ends a course.
    obtain ⟨earlier, last, hevents, hlast, hearlier⟩ := chronicle_halt hhalt
    obtain ⟨fault, hraised, hstop, rfl⟩ := Event.haltsWith_isolated_eq_some_iff.mp hlast
    refine ⟨chronicle_events_isPrefix, ?_, earlier, last, fault, hevents, hraised, hstop, rfl,
      hearlier⟩
    rw [hrun, Chronicle.result_of_halt hhalt]

/-- A checker that asks to stop. -/
def quitter : Checker Unit :=
  ⟨"Quitter", fun _ _ => (.raising (.standard "SystemExit" [.int 3] none), ())⟩

/-- A workspace with one project and one unit. -/
def oneUnitWorkspace : Workspace :=
  ⟨"/w/pyproject.toml", "/w",
    [⟨"/w/a/pyproject.toml", "/w/a", [⟨"/w/a/m.py", [], .identity⟩]⟩]⟩

/-- A request to stop is not isolated: it adds no failure, and the run has no result. -/
theorem stop_adds_no_failure :
    ¬ ∃ result, (run ⟨true, false, 1⟩ [quitter] (fun _ => submissionOrder) oneUnitWorkspace ()).1
          = .ok result
        ∧ result.failures
          = [⟨"Quitter", "/w/a/m.py", .standard "SystemExit" [.int 3] none⟩] := by
  rintro ⟨result, hrun, -⟩
  have hstop : (run ⟨true, false, 1⟩ [quitter] (fun _ => submissionOrder) oneUnitWorkspace ()).1
      = .error (.stopped (.standard "SystemExit" [.int 3] none)) := rfl
  rw [hstop] at hrun
  cases hrun

end Analysis

end WorkspaceLint
