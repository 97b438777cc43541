import WorkspaceLint.Proofs.Analysis.Completion
import WorkspaceLint.Proofs.Outcome

/-!
# What a completed run accounts for

A run that analyses several units at a time makes the same visits as one that does not, in another
order. So it has a chronicle as well, that of its visits in the order in which they are made,
`course`. If the run is completed, its course has no end before its time, and the result of each
project holds what the events of the project add, each once. Records are put into the order of the
units in the end, so all of this is up to the order within a project.

## Shape of the proof

* `complete_accounts`   — units that complete one after another; the induction is on their order.
* `runProject_gathers`  — a project, whose units are analysed in either way.
* `runProjects_gathers` — the projects; events are told apart by their places.

That a course is what its run does is seen from the states of the checkers as well: those that write
down their visits leave these visits behind, `run_logging_of_completed`.
-/

namespace WorkspaceLint

variable {σ : Type}

/-- A result has a result for each project of a workspace, in its order. -/
structure AnalysisResult.IsOver (result : AnalysisResult) (workspace : Workspace) : Prop where
  workspace_eq : result.workspace = workspace
  projects_eq : result.projects.map ProjectResult.project = workspace.projects

/-! ## Gatherings -/

/-- An outcome consists of what some events add to their project, in any order. -/
structure Outcome.Gathers (outcome : Outcome) (events : List (Event σ)) : Prop where
  findings : outcome.findings.Perm (events.flatMap Event.accepted)
  failures : outcome.failures.Perm (events.flatMap Event.failures)
  rejections : outcome.rejections.Perm (events.flatMap Event.rejected)

/-- An outcome that accounts for events gathers what they found, whether it sorts or not. -/
theorem Outcome.Accounts.gathers {sort : Bool} {outcome : Outcome} {events : List (Event σ)}
    (h : outcome.Accounts sort events) : outcome.Gathers events :=
  ⟨h.findings_perm, .of_eq h.failures_eq, .of_eq h.rejections_eq⟩

/-- Outcomes are put together field by field. -/
theorem Outcome.concat_eq (outcomes : List Outcome) :
    Outcome.concat outcomes
      = ⟨outcomes.flatMap Outcome.findings, outcomes.flatMap Outcome.failures,
          outcomes.flatMap Outcome.rejections⟩ := by
  induction outcomes with
  | nil => rfl
  | cons outcome outcomes ih =>
    rw [Outcome.concat, List.foldr_cons, ← Outcome.concat, ih]
    simp only [List.flatMap_cons, Outcome.append]

/-- What outcomes gather does not depend on their order. -/
theorem Outcome.Gathers.of_perm {outcomes others : List Outcome} {events : List (Event σ)}
    (h : (Outcome.concat outcomes).Gathers events) (hperm : others.Perm outcomes) :
    (Outcome.concat others).Gathers events := by
  rw [Outcome.concat_eq] at h ⊢
  exact ⟨(hperm.flatMap_right _).trans h.findings, (hperm.flatMap_right _).trans h.failures,
    (hperm.flatMap_right _).trans h.rejections⟩

/-- A step with a value comes of a chronicle without an end before its time. -/
theorem Chronicle.result_eq_ok_iff {α : Type} {course : Chronicle σ} {value : List (Event σ) → α}
    {result : α} :
    (course.result value).1 = .ok result ↔ course.halt = none ∧ value course.events = result := by
  cases hhalt : course.halt <;> simp [Chronicle.result, hhalt]

namespace Analysis

variable {mode : RunMode} {checkers : List (Checker σ)}

/-! ## The units of a project -/

/-- The units of a project in the order in which they are analysed. -/
def analysedUnits (mode : RunMode) (order : List Nat) (project : Project) : List SourceUnit :=
  if isConcurrent mode project then order.filterMap fun index => project.units[index]?
  else project.units

/-- If the units that complete have outcomes, these come of the chronicle of their visits. -/
theorem complete_accounts (place : Nat) (project : Project) (order : List Nat) (state : σ)
    {recorded : List (Nat × Outcome)}
    (h : drain (complete mode checkers project order state).1 = .ok recorded) :
    let made := chronicle mode.isolateFailures (visitsToUnits checkers place project
      (order.filterMap fun index => project.units[index]?)) state
    made.halt = none
    ∧ (complete mode checkers project order state).2 = made.state
    ∧ (Outcome.concat (recorded.map Prod.snd)).Accounts mode.sortFindings made.events := by
  dsimp only
  induction order generalizing state recorded with
  | nil =>
    cases h
    exact ⟨rfl, rfl, .nil⟩
  | cons index order ih =>
    rw [complete] at h ⊢
    rw [List.filterMap_cons]
    cases hunit : project.units[index]? with
    | none =>
      -- There is no unit with this index, so nothing is visited.
      rw [hunit] at h
      exact ih state h
    | some unit =>
      have hvisits := runUnit_eq_chronicle mode place checkers project unit state
      rw [visitsToUnits_cons]
      simp only [hunit] at h ⊢
      cases hhalt : (chronicle mode.isolateFailures (visitsOf checkers place project unit)
          state).halt with
      | some fault =>
        -- Later units are brought to an end as well, but this one decides.
        rw [Chronicle.result_of_halt hhalt] at hvisits
        rw [hvisits] at h
        cases h
      | none =>
        rw [Chronicle.result_of_completed hhalt] at hvisits
        rw [hvisits] at h ⊢
        obtain ⟨rest, hrest, rfl⟩ := map_eq_ok_iff.mp h
        obtain ⟨hcompleted, hstate, haccounts⟩ := ih _ hrest
        rw [chronicle_append hhalt]
        exact ⟨hcompleted, hstate, (Outcome.Accounts.arrange _).append haccounts⟩

/-- The result of a project holds what the events of its course add. -/
theorem runProject_gathers (place : Nat) (order : List Nat) (project : Project) (state : σ)
    {result : ProjectResult} (h : (runProject mode checkers order project state).1 = .ok result) :
    let made := chronicle mode.isolateFailures (visitsToUnits checkers place project
      (analysedUnits mode order project)) state
    made.halt = none
    ∧ (runProject mode checkers order project state).2 = made.state
    ∧ result.project = project
    ∧ result.outcome.Gathers made.events := by
  dsimp only
  unfold runProject analysedUnits at *
  cases hconcurrent : isConcurrent mode project with
  | true =>
    simp only [hconcurrent, if_true, runUnitsConcurrently] at h ⊢
    obtain ⟨outcomes, houtcomes, rfl⟩ := map_eq_ok_iff.mp h
    obtain ⟨recorded, hrecorded, rfl⟩ := map_eq_ok_iff.mp houtcomes
    obtain ⟨hhalt, hstate, haccounts⟩ := complete_accounts place project order state hrecorded
    -- Putting the records in order is all that happens to them after that.
    exact ⟨hhalt, hstate, rfl,
      haccounts.gathers.of_perm ((List.mergeSort_perm recorded _).map Prod.snd)⟩
  | false =>
    simp only [hconcurrent, Bool.false_eq_true, if_false] at h ⊢
    obtain ⟨outcomes, hrun, haccounts⟩ :=
      runUnits_accounts mode place checkers project project.units state
    rw [hrun] at h ⊢
    obtain ⟨_, houtcomes, rfl⟩ := map_eq_ok_iff.mp h
    obtain ⟨hhalt, rfl⟩ := Chronicle.result_eq_ok_iff.mp houtcomes
    exact ⟨hhalt, rfl, rfl, (haccounts hhalt).gathers⟩

/-! ## The projects of a workspace -/

/-- The visits to projects, the first of which has the given place, in the order in which they are
made. -/
def visitsInOrder (mode : RunMode) (checkers : List (Checker σ)) (order : CompletionOrder) :
    (place : Nat) → List Project → List (Invocation σ)
  | _, [] => []
  | place, project :: projects =>
    visitsToUnits checkers place project (analysedUnits mode (order place project) project)
      ++ visitsInOrder mode checkers order (place + 1) projects

/-- A visit that is made takes one of the checkers to a unit of a project at its place. -/
theorem of_mem_visitsInOrder {order : CompletionOrder} {place : Nat} {projects : List Project}
    {invocation : Invocation σ} (h : invocation ∈ visitsInOrder mode checkers order place projects) :
    ∃ index, invocation.place = place + index ∧ projects[index]? = some invocation.project
      ∧ invocation.unit ∈ invocation.project.units ∧ invocation.checker ∈ checkers := by
  induction projects generalizing place with
  | nil => cases h
  | cons project projects ih =>
    rcases List.mem_append.mp h with hfirst | hlater
    · obtain ⟨unit, hunit, hvisit⟩ := List.mem_flatMap.mp hfirst
      obtain ⟨checker, hchecker, rfl⟩ := List.mem_map.mp hvisit
      refine ⟨0, rfl, rfl, ?_, hchecker⟩
      unfold analysedUnits at hunit
      split at hunit
      · obtain ⟨index, -, hindex⟩ := List.mem_filterMap.mp hunit
        exact List.mem_of_getElem? hindex
      · exact hunit
    · obtain ⟨index, hplace, hproject⟩ := ih hlater
      exact ⟨index + 1, by omega, hproject⟩

/-- The results of projects hold what the events of their course add, each project what its own
events add. -/
theorem runProjects_gathers (order : CompletionOrder) (place : Nat) (projects : List Project)
    (state : σ) {results : List ProjectResult}
    (h : (runProjects mode checkers order place projects state).1 = .ok results) :
    let made := chronicle mode.isolateFailures (visitsInOrder mode checkers order place projects)
      state
    made.halt = none
    ∧ (runProjects mode checkers order place projects state).2 = made.state
    ∧ results.map ProjectResult.project = projects
    ∧ ∀ (index : Nat) (result : ProjectResult), results[index]? = some result →
        result.outcome.Gathers (eventsAt (place + index) made.events) := by
  dsimp only
  induction projects generalizing place state results with
  | nil =>
    cases h
    exact ⟨rfl, rfl, rfl, by simp⟩
  | cons project projects ih =>
    rw [runProjects] at h ⊢
    rw [visitsInOrder]
    set first := chronicle mode.isolateFailures (visitsToUnits checkers place project
      (analysedUnits mode (order place project) project)) state with hfirst
    have hplaces : ∀ event ∈ first.events, event.invocation.place = place :=
      fun event hmem => place_of_mem_visitsToUnits (invocation_mem_of_mem_events hmem)
    cases houtcome : (runProject mode checkers (order place project) project state).1 with
    | error fault =>
      have hstep : runProject mode checkers (order place project) project state
          = (.error fault, (runProject mode checkers (order place project) project state).2) :=
        Prod.ext houtcome rfl
      rw [hstep] at h
      cases h
    | ok result =>
      obtain ⟨hhalt, hafter, hresult, hgathers⟩ :=
        runProject_gathers place (order place project) project state houtcome
      have hstep : runProject mode checkers (order place project) project state
          = (.ok result, first.state) := Prod.ext houtcome hafter
      rw [hstep] at h ⊢
      obtain ⟨rest, hrest, rfl⟩ := map_eq_ok_iff.mp h
      obtain ⟨hcompleted, hstate, hprojects, hlater⟩ := ih (place + 1) first.state hrest
      rw [chronicle_append hhalt, ← hfirst]
      refine ⟨hcompleted, hstate, by rw [List.map_cons, hresult, hprojects], ?_⟩
      -- Events of the first project have its place, and all others have later ones.
      intro index found hfound
      cases index with
      | zero =>
        cases hfound
        rw [Nat.add_zero, eventsAt_append_first hplaces]
        · exact hgathers
        · intro event hmem
          obtain ⟨index, hplace, -⟩ := of_mem_visitsInOrder (invocation_mem_of_mem_events hmem)
          omega
      | succ index =>
        rw [← Nat.succ_add_eq_add_succ, eventsAt_append_later hplaces]
        exact hlater index found hfound

/-! ## Runs -/

/-- The chronicle of a run: its visits in the order in which they are made. -/
def course (mode : RunMode) (checkers : List (Checker σ)) (order : CompletionOrder)
    (workspace : Workspace) (state : σ) : Chronicle σ :=
  chronicle mode.isolateFailures (visitsInOrder mode checkers order 0 workspace.projects) state

/-- **What a completed run accounts for.** The result of a completed run has a result for each
project of the workspace. No event of its course ends a run, and the result of each project consists
of what the events of that project add. -/
theorem run_gathers {order : CompletionOrder} {workspace : Workspace} {state : σ}
    {result : AnalysisResult} (h : (run mode checkers order workspace state).1 = .ok result) :
    let made := course mode checkers order workspace state
    made.halt = none
    ∧ (run mode checkers order workspace state).2 = made.state
    ∧ result.IsOver workspace
    ∧ ∀ (place : Nat) (project : ProjectResult), result.projects[place]? = some project →
        project.outcome.Gathers (eventsAt place made.events) := by
  dsimp only
  obtain ⟨results, hresults, rfl⟩ := map_eq_ok_iff.mp h
  obtain ⟨hhalt, hstate, hprojects, hgathers⟩ :=
    runProjects_gathers order 0 workspace.projects state hresults
  refine ⟨hhalt, hstate, ⟨rfl, hprojects⟩, fun place project hproject => ?_⟩
  have hproject := hgathers place project hproject
  rwa [Nat.zero_add] at hproject

/-- The visits in the order in which a run makes them, by checkers that keep a log. -/
theorem visitsInOrder_logging (mode : RunMode) (checkers : List (Checker σ))
    (order : CompletionOrder) (place : Nat) (projects : List Project) :
    visitsInOrder mode (checkers.map Checker.logging) order place projects
      = (visitsInOrder mode checkers order place projects).map Invocation.logging := by
  induction projects generalizing place with
  | nil => rfl
  | cons project projects ih =>
    rw [visitsInOrder, visitsInOrder, List.map_append, visitsToUnits_logging, ih]

/-- Checkers that write down their visits leave the visits of the course of a completed run behind.
-/
theorem run_logging_of_completed {order : CompletionOrder} {workspace : Workspace} {state : σ}
    {result : AnalysisResult}
    (h : (run mode (checkers.map Checker.logging) order workspace ([], state)).1 = .ok result) :
    (run mode (checkers.map Checker.logging) order workspace ([], state)).2.1
      = (course mode checkers order workspace state).events.map Event.entry := by
  obtain ⟨-, hstate, -⟩ := run_gathers h
  rw [hstate, course, visitsInOrder_logging]
  exact congrArg Prod.fst (chronicle_logging mode.isolateFailures
    (visitsInOrder mode checkers order 0 workspace.projects) [] state)

end Analysis

end WorkspaceLint
