import Mathlib.Data.List.Basic
import WorkspaceLint.Analysis.Run

/-!
# Chronicles of runs

A run is three loops inside one another: over projects, over their units, over checkers. To the
checkers it is one sequence of visits. A *chronicle* is that sequence: the invocations of a
workspace are listed once and for all, `invocations`, and carried out one after another, the state
of the checkers passing from each to the next, until one of them ends the run.

## Shape of the accounts

`Event` is an invocation with the visit that was made. What an event adds to the result of its
project is said by the event alone: `accepted`, `failures`, `rejected`. `Outcome.Accounts` says that
an outcome consists of what some events add, and nothing else.

## What a chronicle holds

* `chronicle_append`              — invocations in two parts, the second only if the first
  completed.
* `chronicle_events_of_completed` — without an end before its time, every invocation, each once.
* `chronicle_halt`                — otherwise the last event, and no other, is one that ends a run.
* `chronicle_logging`             — the log that checkers keep of their visits.
-/

namespace WorkspaceLint

variable {σ : Type}

/-! ## Invocations and events -/

/-- A visit to be made: a checker is taken to a unit of the project at a place in the workspace. -/
structure Invocation (σ : Type) where
  place : Nat
  project : Project
  unit : SourceUnit
  checker : Checker σ

/-- A visit that was made. -/
structure Event (σ : Type) where
  invocation : Invocation σ
  visit : Visit

/-- What carrying out an invocation comes to, from a state of the checkers. -/
def Invocation.event (invocation : Invocation σ) (state : σ) : Event σ :=
  ⟨invocation, (invocation.checker.visit invocation.unit state).1⟩

/-- The state of the checkers after an invocation. -/
def Invocation.after (invocation : Invocation σ) (state : σ) : σ :=
  (invocation.checker.visit invocation.unit state).2

namespace Event

/-- The fault of a visit that did not finish: the one it raised, or that of a stray value. -/
def fault? (event : Event σ) : Option Fault :=
  match event.visit.ending with
  | .finished => none
  | .raised fault => some fault
  | .strayed kind => some (strayFault kind)

/-- The findings of a visit that count: all of them if it finished, otherwise none. -/
def counted (event : Event σ) : List Finding :=
  if event.fault?.isNone then event.visit.findings else []

/-- The findings that an event adds to its project. -/
def accepted (event : Event σ) : List Finding :=
  event.counted.filter fun finding => event.invocation.project.owns finding.path

/-- The findings that an event adds to the rejections of its project. -/
def rejected (event : Event σ) : List Rejection :=
  (event.counted.filter fun finding => !event.invocation.project.owns finding.path).map
    fun finding => ⟨event.invocation.checker.name, event.invocation.project.path, finding⟩

/-- The failure that a fault in the visit of an event amounts to. -/
def failureOf (event : Event σ) (fault : Fault) : Failure :=
  ⟨event.invocation.checker.name, event.invocation.unit.path, fault⟩

/-- The failures that an event adds to its project: at most one. -/
def failures (event : Event σ) : List Failure := (event.fault?.map event.failureOf).toList

/-- Why the run ends with an event, if it does. -/
def haltsWith (isolate : Bool) (event : Event σ) : Option RunFault :=
  event.fault?.bind fun fault =>
    if !fault.isOrdinary then some (.stopped fault)
    else if isolate then none
    else some (.failed (event.failureOf fault))

end Event

/-- The fault of a stray value is one that a program is expected to handle. -/
theorem strayFault_isOrdinary (kind : String) : (strayFault kind).isOrdinary = true := rfl

namespace Event

variable {event : Event σ}

/-- With failures isolated, an event ends a run exactly if its visit raised a request to stop. -/
theorem haltsWith_isolated_eq_some_iff {halt : RunFault} :
    event.haltsWith true = some halt
      ↔ ∃ fault, event.visit.ending = .raised fault ∧ fault.isOrdinary = false
          ∧ halt = .stopped fault := by
  cases hending : event.visit.ending with
  | finished => simp [haltsWith, fault?, hending]
  | raised fault =>
    cases hordinary : fault.isOrdinary with
    | true => simp [haltsWith, fault?, hending, hordinary]
    | false =>
      simp only [haltsWith, fault?, hending, hordinary, Option.bind_some, Bool.not_false, if_true,
        Option.some.injEq, Ending.raised.injEq]
      constructor
      · rintro rfl
        exact ⟨fault, rfl, hordinary, rfl⟩
      · rintro ⟨_, rfl, -, rfl⟩
        rfl
  | strayed kind => simp [haltsWith, fault?, hending, strayFault_isOrdinary]

/-- With failures isolated, an event that does not end the run has no fault but ordinary ones. -/
theorem isOrdinary_of_haltsWith_isolated {fault : Fault} (h : event.haltsWith true = none)
    (hfault : event.fault? = some fault) : fault.isOrdinary = true := by
  by_contra hstop
  simp [haltsWith, hfault, hstop] at h

end Event

/-- What events add to their projects, one after another. -/
def Outcome.ofEvents (events : List (Event σ)) : Outcome :=
  ⟨events.flatMap Event.accepted, events.flatMap Event.failures, events.flatMap Event.rejected⟩

/-- What a list of events amounts to is what its first part and what its second part amount to. -/
theorem Outcome.ofEvents_append (before after : List (Event σ)) :
    Outcome.ofEvents (before ++ after)
      = (Outcome.ofEvents before).append (Outcome.ofEvents after) := by
  simp only [Outcome.ofEvents, Outcome.append, List.flatMap_append]

/-- What a list of events amounts to, taken apart at its first event. -/
theorem Outcome.ofEvents_cons (event : Event σ) (events : List (Event σ)) :
    Outcome.ofEvents (event :: events)
      = (Outcome.ofEvents [event]).append (Outcome.ofEvents events) :=
  Outcome.ofEvents_append [event] events

/-! ## Chronicles -/

/-- The visits that were made, in order, why they ended early if they did, and the state of the
checkers after them. -/
structure Chronicle (σ : Type) where
  events : List (Event σ)
  halt : Option RunFault
  state : σ

/-- A step with a value worked out from the events, unless they ended early. -/
def Chronicle.result {α : Type} (course : Chronicle σ) (value : List (Event σ) → α) :
    Stepped σ α :=
  (match course.halt with
    | some fault => .error fault
    | none => .ok (value course.events), course.state)

/-- A course that was stopped results in the fault that stopped it. -/
theorem Chronicle.result_of_halt {α : Type} {course : Chronicle σ} {fault : RunFault}
    (h : course.halt = some fault) (value : List (Event σ) → α) :
    course.result value = (.error fault, course.state) := by
  simp only [Chronicle.result, h]

/-- A course that was completed results in the value of its events. -/
theorem Chronicle.result_of_completed {α : Type} {course : Chronicle σ} (h : course.halt = none)
    (value : List (Event σ) → α) :
    course.result value = (.ok (value course.events), course.state) := by
  simp only [Chronicle.result, h]

/-- Carries out invocations one after another, up to the first that ends the run. -/
def chronicle (isolate : Bool) : List (Invocation σ) → σ → Chronicle σ
  | [], state => ⟨[], none, state⟩
  | invocation :: invocations, state =>
    match (invocation.event state).haltsWith isolate with
    | some fault => ⟨[invocation.event state], some fault, invocation.after state⟩
    | none =>
      let rest := chronicle isolate invocations (invocation.after state)
      ⟨invocation.event state :: rest.events, rest.halt, rest.state⟩

/-- Taking all checkers to a unit. -/
def visitsOf (checkers : List (Checker σ)) (place : Nat) (project : Project) (unit : SourceUnit) :
    List (Invocation σ) := checkers.map fun checker => ⟨place, project, unit, checker⟩

/-- Taking all checkers to some units of a project. -/
def visitsToUnits (checkers : List (Checker σ)) (place : Nat) (project : Project)
    (units : List SourceUnit) : List (Invocation σ) :=
  units.flatMap (visitsOf checkers place project)

/-- Taking all checkers to all units of projects, the first of which has the given place. -/
def visitsToProjects (checkers : List (Checker σ)) : (place : Nat) → List Project →
    List (Invocation σ)
  | _, [] => []
  | place, project :: projects =>
    visitsToUnits checkers place project project.units
      ++ visitsToProjects checkers (place + 1) projects

/-- All invocations of a workspace: project by project, unit by unit, checker by checker. -/
def invocations (checkers : List (Checker σ)) (workspace : Workspace) : List (Invocation σ) :=
  visitsToProjects checkers 0 workspace.projects

section Chronicle

variable {isolate : Bool} {invocation : Invocation σ} {visits before after : List (Invocation σ)}
  {state : σ} {fault : RunFault}

/-- Without visits there are no events, and the state is left as it is. -/
@[simp] theorem chronicle_nil :
    chronicle isolate ([] : List (Invocation σ)) state = ⟨[], none, state⟩ := rfl

/-- A visit that is stopped is the last event of the course. -/
theorem chronicle_cons_of_halt (h : (invocation.event state).haltsWith isolate = some fault) :
    chronicle isolate (invocation :: visits) state
      = ⟨[invocation.event state], some fault, invocation.after state⟩ := by
  simp only [chronicle, h]

/-- A visit that is not stopped is the first event, and the other visits start from its state. -/
theorem chronicle_cons (h : (invocation.event state).haltsWith isolate = none) :
    chronicle isolate (invocation :: visits) state
      = ⟨invocation.event state :: (chronicle isolate visits (invocation.after state)).events,
          (chronicle isolate visits (invocation.after state)).halt,
          (chronicle isolate visits (invocation.after state)).state⟩ := by
  simp only [chronicle, h]

/-- Once the run has ended, nothing more is carried out. -/
theorem chronicle_append_of_halt (h : (chronicle isolate before state).halt = some fault) :
    chronicle isolate (before ++ after) state = chronicle isolate before state := by
  induction before generalizing state with
  | nil => exact absurd h (by simp)
  | cons invocation before ih =>
    rw [List.cons_append]
    cases hhalt : (invocation.event state).haltsWith isolate with
    | some fault => rw [chronicle_cons_of_halt hhalt, chronicle_cons_of_halt hhalt]
    | none =>
      rw [chronicle_cons hhalt] at h
      rw [chronicle_cons hhalt, chronicle_cons hhalt, ih h]

/-- As long as the run has not ended, further invocations are carried out behind the first ones. -/
theorem chronicle_append (h : (chronicle isolate before state).halt = none) :
    chronicle isolate (before ++ after) state
      = ⟨(chronicle isolate before state).events
            ++ (chronicle isolate after (chronicle isolate before state).state).events,
          (chronicle isolate after (chronicle isolate before state).state).halt,
          (chronicle isolate after (chronicle isolate before state).state).state⟩ := by
  induction before generalizing state with
  | nil => rfl
  | cons invocation before ih =>
    rw [List.cons_append]
    cases hhalt : (invocation.event state).haltsWith isolate with
    | some fault =>
      rw [chronicle_cons_of_halt hhalt] at h
      exact absurd h (by simp)
    | none =>
      rw [chronicle_cons hhalt] at h
      rw [chronicle_cons hhalt, chronicle_cons hhalt, ih h, List.cons_append]

/-- The visits that were made are the first of those to be made, in the same order. -/
theorem chronicle_events_isPrefix :
    (chronicle isolate visits state).events.map Event.invocation <+: visits := by
  induction visits generalizing state with
  | nil => exact List.prefix_refl []
  | cons invocation visits ih =>
    cases hhalt : (invocation.event state).haltsWith isolate with
    | some fault =>
      rw [chronicle_cons_of_halt hhalt]
      exact ⟨visits, rfl⟩
    | none =>
      rw [chronicle_cons hhalt, List.map_cons]
      exact List.cons_prefix_cons.mpr ⟨rfl, ih⟩

/-- If nothing ended the run, every visit was made, each once. -/
theorem chronicle_events_of_completed (h : (chronicle isolate visits state).halt = none) :
    (chronicle isolate visits state).events.map Event.invocation = visits := by
  induction visits generalizing state with
  | nil => rfl
  | cons invocation visits ih =>
    cases hhalt : (invocation.event state).haltsWith isolate with
    | some fault =>
      rw [chronicle_cons_of_halt hhalt] at h
      exact absurd h (by simp)
    | none =>
      rw [chronicle_cons hhalt] at h ⊢
      rw [List.map_cons, ih h]
      rfl

/-- If nothing ended the run, no event was one that ends it. -/
theorem haltsWith_of_completed (h : (chronicle isolate visits state).halt = none) :
    ∀ event ∈ (chronicle isolate visits state).events, event.haltsWith isolate = none := by
  induction visits generalizing state with
  | nil => simp
  | cons invocation visits ih =>
    cases hhalt : (invocation.event state).haltsWith isolate with
    | some fault =>
      rw [chronicle_cons_of_halt hhalt] at h
      exact absurd h (by simp)
    | none =>
      rw [chronicle_cons hhalt] at h ⊢
      intro event hmem
      rcases List.mem_cons.mp hmem with rfl | hmem
      · exact hhalt
      · exact ih h event hmem

/-- A run that ended early was ended by the last visit made, and by no visit before it. -/
theorem chronicle_halt (h : (chronicle isolate visits state).halt = some fault) :
    ∃ earlier last, (chronicle isolate visits state).events = earlier ++ [last]
      ∧ last.haltsWith isolate = some fault
      ∧ ∀ event ∈ earlier, event.haltsWith isolate = none := by
  induction visits generalizing state with
  | nil => exact absurd h (by simp)
  | cons invocation visits ih =>
    cases hhalt : (invocation.event state).haltsWith isolate with
    | some found =>
      rw [chronicle_cons_of_halt hhalt] at h ⊢
      cases h
      exact ⟨[], _, rfl, hhalt, by simp⟩
    | none =>
      rw [chronicle_cons hhalt] at h ⊢
      obtain ⟨earlier, last, hevents, hlast, hearlier⟩ := ih h
      refine ⟨invocation.event state :: earlier, last, by simp [hevents], hlast, ?_⟩
      intro event hmem
      rcases List.mem_cons.mp hmem with rfl | hmem
      · exact hhalt
      · exact hearlier event hmem

end Chronicle

/-! ## Checkers that write down their visits

What a chronicle holds can be seen from a run itself: checkers that keep a log of their visits leave
it in their state, and the chronicle says what is in it.
-/

/-- What a visit is written down as: the checker and the unit. -/
abbrev LogEntry (σ : Type) := Checker σ × SourceUnit

/-- A checker that writes down each of its visits before the state of the checkers. -/
def Checker.logging (checker : Checker σ) : Checker (List (LogEntry σ) × σ) :=
  ⟨checker.name, fun unit state =>
    ((checker.visit unit state.2).1, state.1 ++ [(checker, unit)], (checker.visit unit state.2).2)⟩

/-- The same visit, written down. -/
def Invocation.logging (invocation : Invocation σ) : Invocation (List (LogEntry σ) × σ) :=
  ⟨invocation.place, invocation.project, invocation.unit, invocation.checker.logging⟩

/-- What the visit of an event is written down as. -/
def Event.entry (event : Event σ) : LogEntry σ :=
  (event.invocation.checker, event.invocation.unit)

/-- Visits by checkers that keep a log are the visits by the checkers, with the log kept. -/
theorem visitsToUnits_logging (checkers : List (Checker σ)) (place : Nat) (project : Project)
    (units : List SourceUnit) :
    visitsToUnits (checkers.map Checker.logging) place project units
      = (visitsToUnits checkers place project units).map Invocation.logging := by
  rw [visitsToUnits, visitsToUnits, List.map_flatMap]
  refine List.flatMap_congr fun unit _ => ?_
  rw [visitsOf, visitsOf, List.map_map, List.map_map]
  rfl

/-- The same for the visits to the units of all projects. -/
theorem visitsToProjects_logging (checkers : List (Checker σ)) (place : Nat)
    (projects : List Project) :
    visitsToProjects (checkers.map Checker.logging) place projects
      = (visitsToProjects checkers place projects).map Invocation.logging := by
  induction projects generalizing place with
  | nil => rfl
  | cons project projects ih =>
    rw [visitsToProjects, visitsToProjects, List.map_append, visitsToUnits_logging, ih]

/-- Writing visits down changes nothing about them, and all of them are written down in order. -/
theorem chronicle_logging (isolate : Bool) (visits : List (Invocation σ))
    (log : List (LogEntry σ)) (state : σ) :
    (chronicle isolate (visits.map Invocation.logging) (log, state)).state
      = (log ++ (chronicle isolate visits state).events.map Event.entry,
          (chronicle isolate visits state).state) := by
  induction visits generalizing log state with
  | nil => simp
  | cons invocation visits ih =>
    have hhalts : (invocation.logging.event (log, state)).haltsWith isolate
        = (invocation.event state).haltsWith isolate := rfl
    rw [List.map_cons]
    cases hhalt : (invocation.event state).haltsWith isolate with
    | some fault =>
      rw [chronicle_cons_of_halt (hhalts.trans hhalt), chronicle_cons_of_halt hhalt]
      rfl
    | none =>
      have hrest := ih (log ++ [(invocation.checker, invocation.unit)]) (invocation.after state)
      rw [chronicle_cons (hhalts.trans hhalt), chronicle_cons hhalt, List.map_cons]
      rw [List.append_assoc] at hrest
      exact hrest

end WorkspaceLint
