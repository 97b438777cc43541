import WorkspaceLint.Analysis.Pool
import WorkspaceLint.Proofs.Analysis.Verdicts

/-!
# What the order of completion decides

With more than one job the units of a project complete in an order that the run does not choose.
This module says what depends on that order, for checkers whose visits depend on the unit alone:
nothing of a result, and of several faults in one project the one that is reported.

## Shape of the proof

* `runProjects_eq_settle`     — projects come one after another in both ways, so the fault of the
  first project that has one decides, `firstFault`.
* `run_eq_ok_iff_sequential`  — whether there is a fault does not depend on the order.
* `firstFault_bind_eq_iff`    — which one decides may, in the first project with a fault.
-/

namespace WorkspaceLint

variable {σ : Type}

namespace Analysis

/-! ## Several projects -/

/-- The fault that decides over projects which are analysed one after another: that of the first
project that has one. -/
def firstFault (fault : Nat → Project → Option RunFault) :
    (place : Nat) → List Project → Option RunFault
  | _, [] => none
  | place, project :: projects =>
    (fault place project).or (firstFault fault (place + 1) projects)

/-- No project has a fault if and only if none of them has one at its own place. -/
theorem firstFault_eq_none_iff {fault : Nat → Project → Option RunFault} {place : Nat}
    {projects : List Project} :
    firstFault fault place projects = none
      ↔ ∀ index project, projects[index]? = some project → fault (place + index) project = none := by
  induction projects generalizing place with
  | nil => simp [firstFault]
  | cons project projects ih =>
    rw [firstFault, Option.or_eq_none_iff, ih]
    constructor
    · rintro ⟨hhead, hrest⟩ index other hother
      cases index with
      | zero =>
        obtain rfl : project = other := by simpa using hother
        exact hhead
      | succ index =>
        have h := hrest index other (by simpa using hother)
        rwa [Nat.add_right_comm] at h
    · intro h
      refine ⟨h 0 project rfl, fun index other hother => ?_⟩
      rw [Nat.add_right_comm]
      exact h (index + 1) other hother

/-- Two ways of finding the fault of a project, which agree on the projects that have none, yield
the same failure if they do for the first project that has a fault, and not otherwise. -/
theorem firstFault_bind_eq_iff {fault fault' : Nat → Project → Option RunFault} {place : Nat}
    {projects : List Project}
    (hnone : ∀ index project, projects[index]? = some project →
      (fault (place + index) project = none ↔ fault' (place + index) project = none)) :
    (firstFault fault place projects).bind RunFault.failure?
        = (firstFault fault' place projects).bind RunFault.failure?
      ↔ ∀ before project after, projects = before ++ project :: after →
          firstFault fault place before = none →
          (fault (place + before.length) project).bind RunFault.failure?
            = (fault' (place + before.length) project).bind RunFault.failure? := by
  induction projects generalizing place with
  | nil => simp [firstFault]
  | cons project projects ih =>
    have hhead := hnone 0 project rfl
    rw [Nat.add_zero] at hhead
    rw [firstFault, firstFault]
    cases hfault : fault place project with
    | some first =>
      -- The first project decides in both ways, and no other project has only projects without a
      -- fault before it.
      obtain ⟨first', hfault'⟩ : ∃ first', fault' place project = some first' := by
        rw [← Option.ne_none_iff_exists', ne_eq, ← hhead, hfault]
        exact Option.some_ne_none first
      rw [hfault', Option.some_or, Option.some_or, ← hfault, ← hfault']
      constructor
      · intro h before other after hsplit hbefore
        cases before with
        | nil =>
          obtain ⟨rfl, -⟩ := List.cons.inj hsplit
          exact h
        | cons _ before =>
          obtain ⟨rfl, -⟩ := List.cons.inj hsplit
          simp [firstFault, hfault] at hbefore
      · intro h
        exact h [] project projects rfl rfl
    | none =>
      -- The first project has no fault in either way, and the decision is left to the others.
      rw [hhead.mp hfault, Option.none_or, Option.none_or, ih fun index other hother => by
        rw [Nat.add_right_comm]
        exact hnone (index + 1) other hother]
      constructor
      · intro h before other after hsplit hbefore
        cases before with
        | nil =>
          obtain ⟨rfl, -⟩ := List.cons.inj hsplit
          simp [hfault, hhead.mp hfault]
        | cons _ before =>
          obtain ⟨rfl, hrest⟩ := List.cons.inj hsplit
          rw [firstFault, hfault, Option.none_or] at hbefore
          rw [List.length_cons, ← Nat.add_assoc, Nat.add_right_comm]
          exact h before other after hrest hbefore
      · intro h before other after hsplit hbefore
        have h := h (project :: before) other after (by rw [hsplit]; rfl)
          (by rw [firstFault, hfault, Option.none_or, hbefore])
        rwa [List.length_cons, ← Nat.add_assoc, Nat.add_right_comm] at h

/-- If what comes of each project is settled, so is what comes of all of them. -/
theorem runProjects_eq_settle {mode : RunMode} {checkers : List (Checker σ)}
    (order : CompletionOrder) (fault : Nat → Project → Option RunFault)
    (result : Project → ProjectResult) (place : Nat) (projects : List Project)
    (hproject : ∀ index project state, projects[index]? = some project →
      (runProject mode checkers (order (place + index) project) project state).1
        = settle (fault (place + index) project) (result project)) (state : σ) :
    (runProjects mode checkers order place projects state).1
      = settle (firstFault fault place projects) (projects.map result) := by
  induction projects generalizing place state with
  | nil => rfl
  | cons project projects ih =>
    have hhead := hproject 0 project state rfl
    rw [Nat.add_zero] at hhead
    rw [runProjects, firstFault]
    generalize runProject mode checkers (order place project) project state = stepped at hhead ⊢
    obtain ⟨first, after⟩ := stepped
    obtain rfl : first = settle (fault place project) (result project) := hhead
    cases fault place project with
    | some fault => rfl
    | none =>
      have hrest := ih (place + 1) (fun index other state hother => by
        rw [Nat.add_right_comm]
        exact hproject (index + 1) other state hother) after
      simp only [settle, hrest, Option.none_or]
      exact settle_map _ _ _

/-! ## Orders of completion -/

/-- In an order of completion every unit of a workspace completes exactly once. -/
def CompletionOrder.Completes (order : CompletionOrder) (workspace : Workspace) : Prop :=
  ∀ place project, workspace.projects[place]? = some project →
    (order place project).Perm (submissionOrder project)

end Analysis

namespace Pool

/-- There are as many times of completion as units handed to the workers. -/
theorem length_finishTimes (now : Nat) (free lengths : List Nat) :
    (finishTimes now free lengths).length = lengths.length := by
  induction lengths generalizing now free with
  | nil => rfl
  | cons length lengths ih => simp only [finishTimes, List.length_cons, ih]

/-- Workers bring every unit to an end, each once. -/
theorem completionOrder_perm (workers : Nat) (lengths : List Nat) :
    (completionOrder workers lengths).Perm (List.range lengths.length) := by
  have hmerged := (List.mergeSort_perm
    (finishTimes 0 (List.replicate workers 0) lengths).zipIdx fun a b => a.1 ≤ b.1).map Prod.snd
  simp only [List.zipIdx_map_snd, length_finishTimes, ← List.range_eq_range'] at hmerged
  exact hmerged

/-- A pool of workers completes every workspace. -/
theorem order_completes (mode : RunMode) (workspace : Workspace) :
    (order mode).Completes workspace := by
  intro place project _
  have h := completionOrder_perm (min mode.jobs.toNat project.units.length)
    (project.units.map (·.source.length))
  rwa [List.length_map] at h

end Pool

namespace Analysis

/-! ## Runs -/

section Stateless

variable {mode : RunMode} {checkers : List (Checker σ)}
  (hstateless : ∀ checker ∈ checkers, checker.IsStateless)

include hstateless

/-- With one job the faults of a run are met in the order of the units. -/
theorem run_eq_settle_of_sequential (order : CompletionOrder) (workspace : Workspace) (state : σ) :
    (run { mode with jobs := 1 } checkers order workspace state).1
      = settle (firstFault (fun _ project => decisiveFault mode checkers project state
          (submissionOrder project)) 0 workspace.projects)
        ⟨workspace, workspace.projects.map (settledResult mode checkers · state)⟩ := by
  have hprojects := runProjects_eq_settle order
    (fun _ project => decisiveFault mode checkers project state (submissionOrder project))
    (settledResult mode checkers · state) 0 workspace.projects
    (fun _ project state' _ =>
      runProject_eq_settle_of_sequential hstateless project _ state state') state
  simp only [run, hprojects]
  exact settle_map _ _ _

/-- With more jobs the faults of a run are met in the order of completion. -/
theorem run_eq_settle_of_concurrent (hjobs : 1 < mode.jobs) {order : CompletionOrder}
    {workspace : Workspace} (horder : order.Completes workspace) (state : σ) :
    (run mode checkers order workspace state).1
      = settle (firstFault (fun place project => decisiveFault mode checkers project state
          (order place project)) 0 workspace.projects)
        ⟨workspace, workspace.projects.map (settledResult mode checkers · state)⟩ := by
  have hprojects := runProjects_eq_settle order
    (fun place project => decisiveFault mode checkers project state (order place project))
    (settledResult mode checkers · state) 0 workspace.projects
    (fun index project state' hproject =>
      runProject_eq_settle_of_concurrent hstateless hjobs project
        (by rw [Nat.zero_add]; exact horder index project hproject) state state') state
  simp only [run, hprojects]
  exact settle_map _ _ _

end Stateless

section Orders

variable {mode : RunMode} {checkers : List (Checker σ)} {order : CompletionOrder}

/-- Whether a fault decides over a workspace does not depend on the order of completion. -/
theorem firstFault_decisiveFault_eq_none_iff (mode : RunMode) (checkers : List (Checker σ))
    (order : CompletionOrder) (projects : List Project) (state : σ)
    (horder : ∀ place project, projects[place]? = some project →
      (order place project).Perm (submissionOrder project)) :
    firstFault (fun place project => decisiveFault mode checkers project state
        (order place project)) 0 projects = none
      ↔ ∀ project ∈ projects, ∀ unit ∈ project.units,
          faultOf (verdict mode checkers project state unit) = none := by
  rw [firstFault_eq_none_iff]
  constructor
  · intro h project hmem
    obtain ⟨index, hindex⟩ := List.mem_iff_getElem?.mp hmem
    have hnone := h index project hindex
    rw [Nat.zero_add] at hnone
    exact (decisiveFault_eq_none_iff (horder index project hindex)).mp hnone
  · intro h index project hindex
    rw [Nat.zero_add]
    exact (decisiveFault_eq_none_iff (horder index project hindex)).mpr
      (h project (List.mem_of_getElem? hindex))

/-- Whether a run has a result, and which, does not depend on the order of completion. -/
theorem run_eq_ok_iff_sequential (hjobs : 1 < mode.jobs)
    (hstateless : ∀ checker ∈ checkers, checker.IsStateless) {workspace : Workspace}
    (horder : order.Completes workspace) (state : σ) (result : AnalysisResult) :
    (run mode checkers order workspace state).1 = .ok result
      ↔ (run { mode with jobs := 1 } checkers order workspace state).1 = .ok result := by
  have hconcurrent := firstFault_decisiveFault_eq_none_iff mode checkers order workspace.projects
    state horder
  have hsequential := firstFault_decisiveFault_eq_none_iff mode checkers
    (fun _ project => submissionOrder project) workspace.projects state fun _ _ _ => .refl _
  rw [run_eq_settle_of_concurrent hstateless hjobs horder, run_eq_settle_of_sequential hstateless,
    settle_eq_ok_iff, settle_eq_ok_iff]
  exact and_congr (hconcurrent.trans hsequential.symm) Iff.rfl

/-! ### A project of two units -/

/-- A workspace with one project and two units, the first of which has an empty source. -/
def pairWorkspace : Workspace :=
  ⟨"/w/pyproject.toml", "/w",
    [⟨"/w/a/pyproject.toml", "/w/a",
      [⟨"/w/a/m.py", [], .identity⟩, ⟨"/w/a/n.py", ['x'], .identity⟩]⟩]⟩

/-- The order of completion in which each unit overtakes all before it. -/
def reverseOrder : CompletionOrder := fun _ project => (submissionOrder project).reverse

/-- The reverse of the order of submission completes every unit once. -/
theorem reverseOrder_completes (workspace : Workspace) : reverseOrder.Completes workspace :=
  fun _ project _ => List.reverse_perm (submissionOrder project)

/-- A fault that a program is expected to handle. -/
def crash : Fault := .withMessage "RuntimeError" "crash"

/-- A checker that fails on every unit. -/
def crasher : Checker Unit := ⟨"Crasher", fun _ state => (.raising crash, state)⟩

/-- A checker that fails on units with an empty source. -/
def emptinessCrasher : Checker Unit :=
  ⟨"EmptinessCrasher", fun unit state =>
    (if unit.source.isEmpty then .raising crash else .empty, state)⟩

/-- **Isolated failures: a result does not depend on the order of completion.** A run with several
jobs has the result that a run with one job has, whatever the order of completion and whether or not
findings are sorted. It has one exactly if no checker asks to stop. -/
theorem run_isolated_eq_sequential (hjobs : 1 < mode.jobs) (hisolate : mode.isolateFailures = true)
    (hstateless : ∀ checker ∈ checkers, checker.IsStateless) {workspace : Workspace}
    (horder : order.Completes workspace) (state : σ) :
    (∀ result, (run mode checkers order workspace state).1 = .ok result
      ↔ (run { mode with jobs := 1 } checkers order workspace state).1 = .ok result)
    ∧ ((∃ result, (run mode checkers order workspace state).1 = .ok result)
      ↔ ∀ project ∈ workspace.projects, ∀ unit ∈ project.units, ∀ checker ∈ checkers, ∀ fault,
          (checker.visit unit state).1.ending = .raised fault → fault.isOrdinary = true) := by
  refine ⟨run_eq_ok_iff_sequential hjobs hstateless horder state, ?_⟩
  have hnone := firstFault_decisiveFault_eq_none_iff mode checkers order workspace.projects state
    horder
  simp only [run_eq_settle_of_concurrent hstateless hjobs horder, settle_eq_ok_iff, exists_and_left,
    exists_eq', and_true, hnone, faultOf_verdict_isolated_eq_none_iff hstateless hisolate]

/-- With its units completed in reverse, a project still has its failures in the order of the
units. -/
theorem pair_failures_in_order :
    (run ⟨true, false, 2⟩ [crasher] reverseOrder pairWorkspace ()).1
      = .ok ⟨pairWorkspace, pairWorkspace.projects.map fun project =>
          ⟨project, [], [⟨"Crasher", "/w/a/m.py", crash⟩, ⟨"Crasher", "/w/a/n.py", crash⟩], []⟩⟩ :=
  ((run_isolated_eq_sequential (by decide) rfl
    (by simp [Checker.IsStateless, crasher]) (reverseOrder_completes _) ()).1 _).mpr rfl

/-- **Failures that end a run: which one is reported depends on the order of completion.** Whether a
run has a result does not depend on it. A run with several jobs reports the failure that a run with
one job reports exactly if, in the first project that has units with a fault, the first of them to
complete has the same failure as the first in the order of the units. -/
theorem run_failure_eq_sequential_iff (hjobs : 1 < mode.jobs)
    (hstateless : ∀ checker ∈ checkers, checker.IsStateless) {workspace : Workspace}
    (horder : order.Completes workspace) (state : σ) :
    (∀ result, (run mode checkers order workspace state).1 = .ok result
      ↔ (run { mode with jobs := 1 } checkers order workspace state).1 = .ok result)
    ∧ ((∀ failure, (run mode checkers order workspace state).1 = .error (.failed failure)
        ↔ (run { mode with jobs := 1 } checkers order workspace state).1
          = .error (.failed failure))
      ↔ ∀ before project after, workspace.projects = before ++ project :: after →
          (∀ earlier ∈ before, ∀ unit ∈ earlier.units,
            faultOf (verdict mode checkers earlier state unit) = none) →
          (decisiveFault mode checkers project state (order before.length project)).bind
              RunFault.failure?
            = (decisiveFault mode checkers project state (submissionOrder project)).bind
              RunFault.failure?) := by
  refine ⟨run_eq_ok_iff_sequential hjobs hstateless horder state, ?_⟩
  have hnone (index : Nat) (project : Project)
      (hproject : workspace.projects[index]? = some project) :
      decisiveFault mode checkers project state (order (0 + index) project) = none
        ↔ decisiveFault mode checkers project state (submissionOrder project) = none := by
    rw [Nat.zero_add, decisiveFault_eq_none_iff (horder index project hproject),
      decisiveFault_eq_none_iff (.refl _)]
  -- Both runs come to their first fault, and whether a project has one is the same for both.
  rw [run_eq_settle_of_concurrent hstateless hjobs horder, run_eq_settle_of_sequential hstateless]
  simp only [settle_eq_failed_iff]
  rw [← Option.ext_iff, firstFault_bind_eq_iff hnone]
  refine forall₃_congr fun before project after => forall_congr' fun hsplit => ?_
  have hbefore := firstFault_decisiveFault_eq_none_iff mode checkers order before state
    fun place earlier hplace =>
      horder place earlier (by
        rw [hsplit, List.getElem?_append_left (List.getElem?_eq_some_iff.mp hplace).1, hplace])
  rw [hbefore, Nat.zero_add]

/-- Where only one unit fails, the run reports it in whatever order the units complete. -/
theorem lone_failure_is_reported :
    (run ⟨false, true, 2⟩ [emptinessCrasher] reverseOrder pairWorkspace ()).1
      = .error (.failed ⟨"EmptinessCrasher", "/w/a/m.py", crash⟩) := by
  refine ((run_failure_eq_sequential_iff (by decide)
    (by simp [Checker.IsStateless, emptinessCrasher]) (reverseOrder_completes _) ()).2.mpr ?_ _).mpr
    rfl
  intro before project after hsplit _
  obtain ⟨rfl, rfl⟩ : before = [] ∧ project = pairWorkspace.projects.head (by decide) := by
    cases before with
    | nil => exact ⟨rfl, (List.cons.inj hsplit).1.symm⟩
    | cons earlier before => simp [pairWorkspace] at hsplit
  rfl

/-- Where both units fail, the run reports the unit that completed first, which with one job is the
other. -/
theorem overtaking_failure_is_reported :
    crasher.IsStateless ∧ reverseOrder.Completes pairWorkspace
    ∧ (run ⟨false, true, 2⟩ [crasher] reverseOrder pairWorkspace ()).1
        = .error (.failed ⟨"Crasher", "/w/a/n.py", crash⟩)
    ∧ (run ⟨false, true, 1⟩ [crasher] reverseOrder pairWorkspace ()).1
        = .error (.failed ⟨"Crasher", "/w/a/m.py", crash⟩) :=
  ⟨fun _ _ _ => rfl, reverseOrder_completes _, rfl, rfl⟩

end Orders

end Analysis

end WorkspaceLint
