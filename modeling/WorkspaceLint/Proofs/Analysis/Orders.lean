import WorkspaceLint.Proofs.Agreement
import WorkspaceLint.Proofs.Analysis.Completion

/-!
# Runs in several orders of completion

With failures isolated, nothing but a request to stop ends a run, and which of several requests is
met first is all that an order of completion can decide, `run_sameUpTo_stop`.
-/

namespace WorkspaceLint

namespace Analysis

variable {σ : Type} {mode : RunMode} {checkers : List (Checker σ)}

/-- Where no project is analysed concurrently, orders of completion are not looked at. -/
theorem runProjects_of_not_concurrent (hjobs : ¬ 1 < mode.jobs) (order order' : CompletionOrder)
    (place : Nat) (projects : List Project) (state : σ) :
    runProjects mode checkers order place projects state
      = runProjects mode checkers order' place projects state := by
  induction projects generalizing place state with
  | nil => rfl
  | cons project projects ih =>
    have hconcurrent : isConcurrent mode project = false := by simp [isConcurrent, hjobs]
    have hproject : runProject mode checkers (order place project) project state
        = runProject mode checkers (order' place project) project state := by
      simp only [runProject, hconcurrent, Bool.false_eq_true, if_false]
    simp only [runProjects, hproject, ih]

/-- The first fault is the fault of some project at its place. -/
theorem exists_of_firstFault {fault : Nat → Project → Option RunFault} {place : Nat}
    {projects : List Project} {halt : RunFault} (h : firstFault fault place projects = some halt) :
    ∃ index project, fault index project = some halt := by
  induction projects generalizing place with
  | nil => cases h
  | cons project projects ih =>
    rw [firstFault, Option.or_eq_some_iff] at h
    rcases h with h | ⟨-, h⟩
    · exact ⟨place, project, h⟩
    · exact ih h

section

variable (hstateless : ∀ checker ∈ checkers, checker.IsStateless)

include hstateless

/-- With failures isolated, a run is decided by nothing but a request to stop. -/
theorem exists_stop_of_decisiveFault (hisolate : mode.isolateFailures = true) {project : Project}
    {state : σ} {order : List Nat} {halt : RunFault}
    (h : decisiveFault mode checkers project state order = some halt) :
    ∃ fault, halt = .stopped fault := by
  obtain ⟨index, -, hindex⟩ := List.exists_of_findSome?_eq_some h
  obtain ⟨unit, -, hunit⟩ := Option.bind_eq_some_iff.mp hindex
  rw [verdict, runUnit, faultOf_map, faultOf_visitAll hstateless _ 0 project unit state, hisolate]
    at hunit
  obtain ⟨checker, -, hchecker⟩ := List.exists_of_findSome?_eq_some hunit
  obtain ⟨fault, -, -, hhalt⟩ := Event.haltsWith_isolated_eq_some_iff.mp hchecker
  exact ⟨fault, hhalt⟩

/-- With failures isolated, a run has the same result in every order of completion, or is stopped in
every order. -/
theorem run_sameUpTo_stop (hisolate : mode.isolateFailures = true) {workspace : Workspace}
    {order order' : CompletionOrder} (horder : order.Completes workspace)
    (horder' : order'.Completes workspace) (state : σ) :
    SameUpTo (fun halt => ∃ fault, halt = .stopped fault)
      (run mode checkers order workspace state).1 (run mode checkers order' workspace state).1 := by
  by_cases hjobs : 1 < mode.jobs
  · have hnone := firstFault_decisiveFault_eq_none_iff mode checkers order workspace.projects state
      horder
    have hnone' := firstFault_decisiveFault_eq_none_iff mode checkers order' workspace.projects state
      horder'
    rw [run_eq_settle_of_concurrent hstateless hjobs horder,
      run_eq_settle_of_concurrent hstateless hjobs horder']
    cases hfault : firstFault (fun place project =>
        decisiveFault mode checkers project state (order place project)) 0 workspace.projects with
    | none =>
      rw [hnone'.mpr (hnone.mp hfault)]
      exact .inl rfl
    | some halt =>
      cases hfault' : firstFault (fun place project =>
          decisiveFault mode checkers project state (order' place project)) 0 workspace.projects with
      | none => simp [hnone.mpr (hnone'.mp hfault')] at hfault
      | some halt' =>
        -- Which fault comes first depends on the order, but both are requests to stop.
        obtain ⟨place, project, hhalt⟩ := exists_of_firstFault hfault
        obtain ⟨place', project', hhalt'⟩ := exists_of_firstFault hfault'
        exact .error (exists_stop_of_decisiveFault hstateless hisolate hhalt)
          (exists_stop_of_decisiveFault hstateless hisolate hhalt')
  · refine .inl ?_
    simp only [run, runProjects_of_not_concurrent hjobs order order']

end

end Analysis

end WorkspaceLint
