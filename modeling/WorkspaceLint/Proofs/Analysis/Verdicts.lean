import Mathlib.Data.List.Nodup
import WorkspaceLint.Proofs.Analysis.Accounting

/-!
# Verdicts on units

For a checker whose visits depend on the unit alone, what comes of a unit is a value of its own,
`verdict`, whatever was analysed before. Both ways of analysing a project then come down to
`settle`: a fault that decides, `decisiveFault`, and otherwise the outcomes of the units in their
own order, `unitOutcomes`. The two ways differ in the order in which they look for the fault, and in
nothing else:

* `runUnits_eq_settle`             — one unit after another, in the order of the units.
* `runUnitsConcurrently_eq_settle` — several at a time, in the order of completion; putting the
  records in order undoes it, `inOrder_recorded`.
-/

namespace WorkspaceLint

variable {σ : Type}

/-- The visits of a checker depend on the unit alone, whatever state the checkers are in. -/
def Checker.IsStateless (checker : Checker σ) : Prop :=
  ∀ unit state state', (checker.visit unit state).1 = (checker.visit unit state').1

/-- The failure that a run reports, if it is a failure that ended it. -/
def RunFault.failure? : RunFault → Option Failure
  | .failed failure => some failure
  | .stopped _ => none

namespace Analysis

/-- The fault in the place of a result. -/
def faultOf {α : Type} : Except RunFault α → Option RunFault
  | .error fault => some fault
  | .ok _ => none

/-- Mapping the value of a result leaves its fault. -/
theorem faultOf_map {α β : Type} (result : Except RunFault α) (f : α → β) :
    faultOf (result.map f) = faultOf result := by
  cases result <;> rfl

/-- A result, unless a fault decides. -/
def settle {α : Type} (fault : Option RunFault) (value : α) : Except RunFault α :=
  match fault with
  | some fault => .error fault
  | none => .ok value

/-- Mapping the value of a settled result maps the value that it was settled with. -/
theorem settle_map {α β : Type} (fault : Option RunFault) (value : α) (f : α → β) :
    (settle fault value).map f = settle fault (f value) := by
  cases fault <;> rfl

/-- A result is settled with a value only when there is no fault. -/
theorem settle_eq_ok_iff {α : Type} {fault : Option RunFault} {value result : α} :
    settle fault value = .ok result ↔ fault = none ∧ value = result := by
  cases fault <;> simp [settle]

/-- A result is settled with a failure only when that failure is the fault. -/
theorem settle_eq_failed_iff {α : Type} {fault : Option RunFault} {value : α} {failure : Failure} :
    settle fault value = .error (.failed failure)
      ↔ fault.bind RunFault.failure? = some failure := by
  cases fault with
  | none => simp [settle]
  | some fault => cases fault <;> simp [settle, RunFault.failure?]

section Verdicts

variable (mode : RunMode) (checkers : List (Checker σ)) (project : Project) (state : σ)

/-- What comes of a unit that is analysed from the given state of the checkers. -/
def verdict (unit : SourceUnit) : Except RunFault Outcome :=
  (runUnit mode checkers project unit state).1

/-- The fault of the unit with an index, if it has one. -/
def faultAt (index : Nat) : Option RunFault :=
  project.units[index]?.bind fun unit => faultOf (verdict mode checkers project state unit)

/-- The fault that decides over a project whose units complete in the given order: that of the first
to complete among the units that have one. -/
def decisiveFault (order : List Nat) : Option RunFault :=
  order.findSome? (faultAt mode checkers project state)

/-- The outcomes of the units that have one, in the order of the units. -/
def unitOutcomes : List Outcome :=
  project.units.filterMap fun unit => (verdict mode checkers project state unit).toOption

/-- What is recorded of the unit with an index. -/
def recordAt (index : Nat) : Option (Nat × Outcome) :=
  (project.units[index]?.bind fun unit => (verdict mode checkers project state unit).toOption).map
    (index, ·)

/-- The result for a project in which no unit has a fault. -/
def settledResult : ProjectResult :=
  .of project (Outcome.concat (unitOutcomes mode checkers project state))

end Verdicts

/-! ## Verdicts do not depend on what was analysed before -/

section Stateless

variable {mode : RunMode} {checkers : List (Checker σ)}
  (hstateless : ∀ checker ∈ checkers, checker.IsStateless)

include hstateless

/-- What checkers without a state make of a unit does not depend on the state. -/
theorem visitAll_fst_eq (isolate : Bool) (project : Project) (unit : SourceUnit)
    (state state' : σ) :
    (visitAll isolate project unit checkers state).1
      = (visitAll isolate project unit checkers state').1 := by
  induction checkers generalizing state state' with
  | nil => rfl
  | cons checker checkers ih =>
    have hvisit := hstateless checker List.mem_cons_self unit state state'
    have hrest := ih (fun checker hmem => hstateless checker (List.mem_cons_of_mem _ hmem))
      (checker.visit unit state).2 (checker.visit unit state').2
    simp only [visitAll, hvisit]
    cases outcomeOf isolate project unit checker.name (checker.visit unit state').1 with
    | error fault => rfl
    | ok outcome => simp only [hrest]

/-- What a run makes of a unit is the verdict on the unit, in whichever state it is visited. -/
theorem runUnit_fst_eq_verdict (project : Project) (unit : SourceUnit) (state state' : σ) :
    (runUnit mode checkers project unit state).1
      = verdict mode checkers project state' unit := by
  simp only [verdict, runUnit,
    visitAll_fst_eq hstateless mode.isolateFailures project unit state state']

/-- Taking checkers to a unit has the fault of the first one whose visit ends a run. -/
theorem faultOf_visitAll (isolate : Bool) (place : Nat) (project : Project) (unit : SourceUnit)
    (state state' : σ) :
    faultOf (visitAll isolate project unit checkers state').1
      = checkers.findSome? fun checker =>
          ((⟨place, project, unit, checker⟩ : Invocation σ).event state).haltsWith isolate := by
  induction checkers generalizing state' with
  | nil => rfl
  | cons checker checkers ih =>
    let invocation : Invocation σ := ⟨place, project, unit, checker⟩
    have hevent : invocation.event state' = invocation.event state := by
      simp only [invocation, Invocation.event,
        hstateless checker List.mem_cons_self unit state' state]
    have hrest := ih (fun checker hmem => hstateless checker (List.mem_cons_of_mem _ hmem))
      (invocation.after state')
    rw [visitAll_cons isolate place, List.findSome?_cons, hevent, ← hrest]
    cases (invocation.event state).haltsWith isolate with
    | some fault => rfl
    | none => exact faultOf_map _ _

/-- With failures isolated, a unit has a fault exactly if a checker asks to stop there. -/
theorem faultOf_verdict_isolated_eq_none_iff (hisolate : mode.isolateFailures = true)
    (project : Project) (unit : SourceUnit) (state : σ) :
    faultOf (verdict mode checkers project state unit) = none
      ↔ ∀ checker ∈ checkers, ∀ fault,
          (checker.visit unit state).1.ending = .raised fault → fault.isOrdinary = true := by
  rw [verdict, runUnit, faultOf_map, faultOf_visitAll hstateless _ 0 project unit state,
    List.findSome?_eq_none_iff, hisolate]
  refine forall₂_congr fun checker _ => ?_
  rw [Option.eq_none_iff_forall_ne_some]
  simp only [ne_eq, Event.haltsWith_isolated_eq_some_iff, not_exists, not_and]
  constructor
  · intro h fault hraised
    by_contra hstop
    exact h _ fault hraised (by simpa using hstop) rfl
  · intro h _ fault hraised hstop
    simp [h fault hraised] at hstop

/-! ## One unit after another -/

/-- A sequential run over units comes to the first verdict with a fault, and otherwise to all
verdicts in order. -/
theorem runUnits_eq_settle (project : Project) (units : List SourceUnit) (state state' : σ) :
    (runUnits mode checkers project units state').1
      = settle (units.findSome? fun unit => faultOf (verdict mode checkers project state unit))
          (units.filterMap fun unit => (verdict mode checkers project state unit).toOption) := by
  induction units generalizing state' with
  | nil => rfl
  | cons unit units ih =>
    have hunit : (runUnit mode checkers project unit state').1
        = verdict mode checkers project state unit :=
      runUnit_fst_eq_verdict hstateless project unit state' state
    rw [runUnits, List.findSome?_cons, List.filterMap_cons, ← hunit]
    obtain ⟨result, after⟩ := runUnit mode checkers project unit state'
    cases result with
    | error fault => rfl
    | ok outcome =>
      simp only [ih after, settle_map]
      rfl

/-! ## Several units at a time -/

/-- Draining what was completed comes to the fault that decides, and otherwise to the records in the
order of completion. -/
theorem drain_complete (project : Project) (order : List Nat) (state state' : σ) :
    drain (complete mode checkers project order state').1
      = settle (decisiveFault mode checkers project state order)
          (order.filterMap (recordAt mode checkers project state)) := by
  induction order generalizing state' with
  | nil => rfl
  | cons index order ih =>
    rw [decisiveFault, List.findSome?_cons, List.filterMap_cons, complete]
    cases hunit : project.units[index]? with
    | none =>
      simp only [faultAt, recordAt, hunit, Option.bind_none, Option.map_none]
      exact ih state'
    | some unit =>
      -- The state in which a unit is completed does not matter, so the verdict can be asked for.
      have hverdict : (runUnit mode checkers project unit state').1
          = verdict mode checkers project state unit :=
        runUnit_fst_eq_verdict hstateless project unit state' state
      simp only [faultAt, recordAt, hunit, Option.bind_some, ← hverdict]
      obtain ⟨result, after⟩ := runUnit mode checkers project unit state'
      cases result with
      | error fault => rfl
      | ok outcome =>
        simp only [drain, ih after, settle_map]
        rfl

end Stateless

/-- What is looked up in a list at all its indices in turn is looked up in its items. -/
theorem range_map_getElem? {α : Type} (items : List α) :
    (List.range items.length).map (fun index => items[index]?) = items.map some := by
  apply List.ext_getElem?
  intro index
  by_cases h : index < items.length <;> simp [h]

/-- Searching the units by their numbers in the order of submission is searching them in order. -/
theorem submissionOrder_findSome? {β : Type} (project : Project) (f : SourceUnit → Option β) :
    (submissionOrder project).findSome? (fun index => project.units[index]?.bind f)
      = project.units.findSome? f := by
  have h := congrArg (List.findSome? fun unit => unit.bind f) (range_map_getElem? project.units)
  simpa only [submissionOrder, List.findSome?_map, Function.comp_def, Option.bind_some] using h

/-- What is kept of the units by their numbers in the order of submission is kept in the order of
the units. -/
theorem submissionOrder_filterMap {β : Type} (project : Project) (f : SourceUnit → Option β) :
    (submissionOrder project).filterMap (fun index => project.units[index]?.bind f)
      = project.units.filterMap f := by
  have h := congrArg (List.filterMap fun unit => unit.bind f) (range_map_getElem? project.units)
  simpa only [submissionOrder, List.filterMap_map, Function.comp_def, Option.bind_some] using h

/-- Putting records in the order of their indices yields the same list in whatever order they were
made. -/
theorem inOrder_of_perm {recorded sorted : List (Nat × Outcome)} (hperm : recorded.Perm sorted)
    (hsorted : sorted.Pairwise fun a b => a.1 < b.1) : inOrder recorded = sorted.map (·.2) := by
  have hkeys : (sorted.map Prod.fst).Nodup := List.pairwise_map.mpr (hsorted.imp Nat.ne_of_lt)
  have hmerged : (recorded.mergeSort fun a b => a.1 ≤ b.1).Pairwise fun a b =>
      decide (a.1 ≤ b.1) = true := by
    refine List.pairwise_mergeSort ?_ ?_ recorded
    · intro a b c
      simp only [decide_eq_true_eq]
      omega
    · intro a b
      simp only [Bool.or_eq_true, decide_eq_true_eq]
      omega
  -- Both lists are sorted and hold the same records, and no two records have the same index.
  have hmerged_perm := (List.mergeSort_perm recorded fun a b => a.1 ≤ b.1).trans hperm
  refine congrArg (List.map Prod.snd) (List.Perm.eq_of_pairwise ?_ hmerged
    (hsorted.imp fun h => by simpa using Nat.le_of_lt h) hmerged_perm)
  intro a b ha hb hab hba
  simp only [decide_eq_true_eq] at hab hba
  exact List.inj_on_of_nodup_map hkeys (hmerged_perm.subset ha) hb (Nat.le_antisymm hab hba)

/-- The records of all units, made in any order, are put back into the order of the units. -/
theorem inOrder_recorded (mode : RunMode) (checkers : List (Checker σ)) (project : Project)
    (state : σ) {order : List Nat} (horder : order.Perm (submissionOrder project)) :
    inOrder (order.filterMap (recordAt mode checkers project state))
      = unitOutcomes mode checkers project state := by
  have hsorted : ((submissionOrder project).filterMap
      (recordAt mode checkers project state)).Pairwise fun a b => a.1 < b.1 := by
    refine List.Pairwise.filterMap _ ?_ List.pairwise_lt_range
    intro index index' hlt record hrecord record' hrecord'
    obtain ⟨_, _, rfl⟩ := Option.map_eq_some_iff.mp hrecord
    obtain ⟨_, _, rfl⟩ := Option.map_eq_some_iff.mp hrecord'
    exact hlt
  rw [inOrder_of_perm (horder.filterMap _) hsorted, List.map_filterMap, unitOutcomes,
    ← submissionOrder_filterMap]
  refine List.filterMap_congr fun index _ => ?_
  simp only [recordAt, Option.map_map, Function.comp_def, Option.map_id']

/-- In the order of submission the first unit with a fault decides. -/
theorem decisiveFault_submissionOrder (mode : RunMode) (checkers : List (Checker σ))
    (project : Project) (state : σ) :
    decisiveFault mode checkers project state (submissionOrder project)
      = project.units.findSome? fun unit => faultOf (verdict mode checkers project state unit) :=
  submissionOrder_findSome? project _

/-- A fault decides in one order of completion exactly if one decides in any other. -/
theorem decisiveFault_eq_none_iff {mode : RunMode} {checkers : List (Checker σ)} {project : Project}
    {state : σ} {order : List Nat} (horder : order.Perm (submissionOrder project)) :
    decisiveFault mode checkers project state order = none
      ↔ ∀ unit ∈ project.units, faultOf (verdict mode checkers project state unit) = none := by
  have hnone : decisiveFault mode checkers project state order = none
      ↔ decisiveFault mode checkers project state (submissionOrder project) = none := by
    simp only [decisiveFault, List.findSome?_eq_none_iff, horder.mem_iff]
  rw [hnone, decisiveFault_submissionOrder, List.findSome?_eq_none_iff]

section Stateless

variable {mode : RunMode} {checkers : List (Checker σ)}
  (hstateless : ∀ checker ∈ checkers, checker.IsStateless)

include hstateless

/-- A concurrent run comes to the fault that decides for its order of completion, and otherwise to
the outcomes of the units in their own order. -/
theorem runUnitsConcurrently_eq_settle (project : Project) {order : List Nat}
    (horder : order.Perm (submissionOrder project)) (state state' : σ) :
    (runUnitsConcurrently mode checkers project order state').1
      = settle (decisiveFault mode checkers project state order)
          (unitOutcomes mode checkers project state) := by
  simp only [runUnitsConcurrently, drain_complete hstateless project order state state', settle_map,
    inOrder_recorded mode checkers project state horder]

/-! ## Projects -/

/-- With one job the faults of a project are met in the order of its units. -/
theorem runProject_eq_settle_of_sequential (project : Project) (order : List Nat)
    (state state' : σ) :
    (runProject { mode with jobs := 1 } checkers order project state').1
      = settle (decisiveFault mode checkers project state (submissionOrder project))
          (settledResult mode checkers project state) := by
  have hsequential : isConcurrent { mode with jobs := 1 } project = false := by simp [isConcurrent]
  simp only [runProject, hsequential, Bool.false_eq_true, if_false,
    runUnits_eq_settle hstateless project project.units state, settle_map,
    decisiveFault_submissionOrder]
  rfl

/-- With more jobs the faults of a project are met in the order of completion. Where there is but
one unit, it is analysed as with one job, and there is but one order. -/
theorem runProject_eq_settle_of_concurrent (hjobs : 1 < mode.jobs) (project : Project)
    {order : List Nat} (horder : order.Perm (submissionOrder project)) (state state' : σ) :
    (runProject mode checkers order project state').1
      = settle (decisiveFault mode checkers project state order)
          (settledResult mode checkers project state) := by
  cases hconcurrent : isConcurrent mode project with
  | true =>
    simp only [runProject, hconcurrent, if_true,
      runUnitsConcurrently_eq_settle hstateless project horder state, settle_map]
    rfl
  | false =>
    -- A project that is not analysed concurrently has too few units for a second order.
    have hlength : project.units.length ≤ 1 := by simpa [isConcurrent, hjobs] using hconcurrent
    have hsame : order = submissionOrder project := by
      rcases Nat.le_one_iff_eq_zero_or_eq_one.mp hlength with h | h <;>
        simpa [submissionOrder, h] using horder
    simp only [runProject, hconcurrent, Bool.false_eq_true, if_false,
      runUnits_eq_settle hstateless project project.units state, settle_map, hsame,
      decisiveFault_submissionOrder]
    rfl

end Stateless

end Analysis

end WorkspaceLint
