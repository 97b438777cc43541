import WorkspaceLint.Proofs.Analysis.Accounting
import WorkspaceLint.Proofs.Outcome

/-!
# Runs that end with the first failure

A run whose failures are not isolated makes the same visits as one whose failures are, in the same
states of the checkers, up to the first visit with a fault. There it ends, and what it reports is
what the other run records first.

## Shape of the proof

`Stepped.Agree` relates a step of a strict run to the same step with failures isolated: both
complete with the same value and no failure, both are stopped by the same fault, or the strict one
ends with the failure that the value of the other one, if it has one, records first. It is kept when
one step follows another, `Agree.followedBy`, and every loop of a run is made of steps that follow
one another, so it holds of whole runs, `run_agree`. Which visits are made is said by the chronicles
of both runs, `chronicle_strict_of_fault`.
-/

namespace WorkspaceLint

variable {σ : Type}

/-! ## Steps that follow one another -/

/-- A step, then another one from the state that it leaves behind, with their values combined. -/
def Stepped.followedBy {α β γ : Type} (first : Stepped σ α) (next : σ → Stepped σ β)
    (combine : α → β → γ) : Stepped σ γ :=
  match first with
  | (.error fault, state) => (.error fault, state)
  | (.ok value, state) => ((next state).1.map (combine value), (next state).2)

/-- A strict step beside the same step with failures isolated; `failures` are those that a value
records. -/
inductive Stepped.Agree {α : Type} (failures : α → List Failure) :
    (strict isolated : Stepped σ α) → Prop
  | completed {value : α} {state : σ} (hnone : failures value = []) :
      Agree failures (.ok value, state) (.ok value, state)
  | stopped {fault : Fault} {state : σ} :
      Agree failures (.error (.stopped fault), state) (.error (.stopped fault), state)
  | failed {failure : Failure} {state : σ} {isolated : Stepped σ α}
      (hfirst : ∀ value, isolated.1 = .ok value → (failures value).head? = some failure) :
      Agree failures (.error (.failed failure), state) isolated

namespace Stepped.Agree

variable {α β γ : Type} {f : α → List Failure} {g : β → List Failure} {k : γ → List Failure}
  {strict isolated : Stepped σ α}

/-- Steps that agree still do when their values are changed and the failures in them are not. -/
theorem map {change : α → β} (hchange : ∀ value, g (change value) = f value)
    (h : Agree f strict isolated) :
    Agree g (strict.1.map change, strict.2) (isolated.1.map change, isolated.2) := by
  cases h with
  | completed hnone => exact .completed ((hchange _).trans hnone)
  | stopped => exact .stopped
  | failed hfirst =>
    refine .failed fun value hvalue => ?_
    obtain ⟨origin, horigin, rfl⟩ := map_eq_ok_iff.mp hvalue
    rw [hchange]
    exact hfirst origin horigin

/-- Steps that agree, followed by steps that agree, agree as wholes: a failure of the first step
comes before all failures of the second one. -/
theorem followedBy (h : Agree f strict isolated) {next next' : σ → Stepped σ β}
    (hnext : ∀ state, Agree g (next state) (next' state)) {combine : α → β → γ}
    (hcombine : ∀ a b, k (combine a b) = f a ++ g b) :
    Agree k (Stepped.followedBy strict next combine)
      (Stepped.followedBy isolated next' combine) := by
  cases h with
  | @completed value state hnone =>
    refine (hnext state).map fun later => ?_
    rw [hcombine, hnone, List.nil_append]
  | stopped => exact .stopped
  | failed hfirst =>
    refine .failed fun value hvalue => ?_
    obtain ⟨result, state⟩ := isolated
    cases result with
    | error fault => cases hvalue
    | ok earlier =>
      obtain ⟨later, -, rfl⟩ := map_eq_ok_iff.mp hvalue
      rw [hcombine, List.head?_append, hfirst earlier rfl]
      rfl

/-- Steps that agree are the same unless the strict one ends with a failure. -/
theorem eq_or_failed (h : Agree f strict isolated) :
    strict = isolated ∨ ∃ failure, strict.1 = .error (.failed failure) := by
  cases h with
  | completed => exact .inl rfl
  | stopped => exact .inl rfl
  | failed => exact .inr ⟨_, rfl⟩

/-- A strict step has a value exactly if the other one has it and it records no failure. -/
theorem eq_ok_iff (h : Agree f strict isolated) {value : α} :
    strict.1 = .ok value ↔ isolated.1 = .ok value ∧ f value = [] := by
  cases h with
  | completed hnone =>
    refine ⟨fun hvalue => ⟨hvalue, ?_⟩, And.left⟩
    rwa [← Except.ok.inj hvalue]
  | stopped => simp
  | failed hfirst =>
    refine ⟨fun hvalue => absurd hvalue (by simp), ?_⟩
    rintro ⟨hvalue, hnone⟩
    have hhead := hfirst value hvalue
    rw [hnone] at hhead
    cases hhead

/-- Where the other step has a value, a strict step ends with the failure that the value records
first. -/
theorem eq_failed_iff (h : Agree f strict isolated) {value : α} (hvalue : isolated.1 = .ok value)
    {failure : Failure} :
    strict.1 = .error (.failed failure) ↔ (f value).head? = some failure := by
  cases h with
  | completed hnone =>
    obtain rfl := Except.ok.inj hvalue
    simp [hnone]
  | stopped => cases hvalue
  | failed hfirst => simp [hfirst value hvalue]

end Stepped.Agree

/-! ## Runs -/

/-- The failures of outcomes put together are those of each, in order. -/
theorem Outcome.failures_concat (outcomes : List Outcome) :
    (Outcome.concat outcomes).failures = outcomes.flatMap Outcome.failures := by
  induction outcomes with
  | nil => rfl
  | cons outcome outcomes ih =>
    rw [List.flatMap_cons, ← ih]
    rfl

namespace Analysis

/-- What comes of a visit: nothing is recorded as a failure unless the strict step ends with it. -/
theorem outcomeOf_agree (project : Project) (unit : SourceUnit) (checker : String) (visit : Visit)
    (state : σ) :
    Stepped.Agree Outcome.failures (outcomeOf false project unit checker visit, state)
      (outcomeOf true project unit checker visit, state) := by
  unfold outcomeOf
  cases visit.collect with
  | ok findings => exact .completed rfl
  | error fault =>
    cases hordinary : fault.isOrdinary with
    | false => simpa [hordinary] using .stopped
    | true =>
      simp only [hordinary, Bool.not_true, Bool.false_eq_true, if_false, if_true]
      refine .failed fun value hvalue => ?_
      obtain rfl := Except.ok.inj hvalue
      rfl

section

variable (sort : Bool) (checkers : List (Checker σ))

/-- A strict visit of a unit by all checkers agrees with the same visit with failures isolated: by
induction on the checkers, each of them is one more step. -/
theorem visitAll_agree (project : Project) (unit : SourceUnit) (state : σ) :
    Stepped.Agree Outcome.failures (visitAll false project unit checkers state)
      (visitAll true project unit checkers state) := by
  have hcons (isolate : Bool) (checker : Checker σ) (checkers : List (Checker σ)) (state : σ) :
      visitAll isolate project unit (checker :: checkers) state
        = Stepped.followedBy
            (outcomeOf isolate project unit checker.name (checker.visit unit state).1,
              (checker.visit unit state).2)
            (visitAll isolate project unit checkers) Outcome.append := by
    rw [visitAll]
    obtain ⟨visit, after⟩ := checker.visit unit state
    dsimp only
    cases outcomeOf isolate project unit checker.name visit <;> rfl
  induction checkers generalizing state with
  | nil => exact .completed rfl
  | cons checker checkers ih =>
    rw [hcons, hcons]
    exact (outcomeOf_agree project unit checker.name _ _).followedBy ih fun _ _ => rfl

/-- A strict run over a unit agrees with the one with failures isolated, sorted or not. -/
theorem runUnit_agree (project : Project) (unit : SourceUnit) (state : σ) :
    Stepped.Agree Outcome.failures (runUnit ⟨false, sort, 1⟩ checkers project unit state)
      (runUnit ⟨true, sort, 1⟩ checkers project unit state) := by
  refine (visitAll_agree checkers project unit state).map fun outcome => ?_
  cases sort <;> rfl

/-- The same for the units of a project, by induction on them. -/
theorem runUnits_agree (project : Project) (units : List SourceUnit) (state : σ) :
    Stepped.Agree (List.flatMap Outcome.failures)
      (runUnits ⟨false, sort, 1⟩ checkers project units state)
      (runUnits ⟨true, sort, 1⟩ checkers project units state) := by
  have hcons (mode : RunMode) (unit : SourceUnit) (units : List SourceUnit) (state : σ) :
      runUnits mode checkers project (unit :: units) state
        = Stepped.followedBy (runUnit mode checkers project unit state)
            (runUnits mode checkers project units) List.cons := by
    rw [runUnits]
    obtain ⟨result, after⟩ := runUnit mode checkers project unit state
    cases result <;> rfl
  induction units generalizing state with
  | nil => exact .completed rfl
  | cons unit units ih =>
    rw [hcons, hcons]
    exact (runUnit_agree sort checkers project unit state).followedBy ih
      fun _ _ => List.flatMap_cons

/-- The same for a project, the outcomes of its units put together. -/
theorem runProject_agree (order : List Nat) (project : Project) (state : σ) :
    Stepped.Agree ProjectResult.failures
      (runProject ⟨false, sort, 1⟩ checkers order project state)
      (runProject ⟨true, sort, 1⟩ checkers order project state) := by
  have hproject (isolate : Bool) :
      runProject ⟨isolate, sort, 1⟩ checkers order project state
        = ((runUnits ⟨isolate, sort, 1⟩ checkers project project.units state).1.map
              fun outcomes => .of project (Outcome.concat outcomes),
            (runUnits ⟨isolate, sort, 1⟩ checkers project project.units state).2) := by
    simp only [runProject, isConcurrent_eq_false, Bool.false_eq_true, if_false]
  rw [hproject, hproject]
  exact (runUnits_agree sort checkers project project.units state).map Outcome.failures_concat

/-- The same for projects, by induction on them. -/
theorem runProjects_agree (order : CompletionOrder) (place : Nat) (projects : List Project)
    (state : σ) :
    Stepped.Agree (List.flatMap ProjectResult.failures)
      (runProjects ⟨false, sort, 1⟩ checkers order place projects state)
      (runProjects ⟨true, sort, 1⟩ checkers order place projects state) := by
  have hcons (mode : RunMode) (place : Nat) (project : Project) (projects : List Project)
      (state : σ) :
      runProjects mode checkers order place (project :: projects) state
        = Stepped.followedBy (runProject mode checkers (order place project) project state)
            (runProjects mode checkers order (place + 1) projects) List.cons := by
    rw [runProjects]
    obtain ⟨result, after⟩ := runProject mode checkers (order place project) project state
    cases result <;> rfl
  induction projects generalizing place state with
  | nil => exact .completed rfl
  | cons project projects ih =>
    rw [hcons, hcons]
    exact (runProject_agree sort checkers (order place project) project state).followedBy
      (ih (place + 1)) fun _ _ => List.flatMap_cons

/-- A strict run agrees with the run from the same state whose failures are isolated. -/
theorem run_agree (order : CompletionOrder) (workspace : Workspace) (state : σ) :
    Stepped.Agree AnalysisResult.failures (run ⟨false, sort, 1⟩ checkers order workspace state)
      (run ⟨true, sort, 1⟩ checkers order workspace state) :=
  (runProjects_agree sort checkers order 0 workspace.projects state).map fun _ => rfl

end

end Analysis

/-! ## Visits -/

namespace Event

variable {event : Event σ} {fault : Fault}

/-- An event without a fault stops no run. -/
theorem haltsWith_of_faultless (h : event.fault? = none) (isolate : Bool) :
    event.haltsWith isolate = none := by
  rw [haltsWith, h, Option.bind_none]

/-- With failures isolated an ordinary fault ends no run; otherwise it does, as a failure. -/
theorem haltsWith_of_ordinary (h : event.fault? = some fault) (hordinary : fault.isOrdinary = true) :
    event.haltsWith true = none ∧ event.haltsWith false = some (.failed (event.failureOf fault)) := by
  simp [haltsWith, h, hordinary]

/-- A request to stop ends every run. -/
theorem haltsWith_of_stop (h : event.fault? = some fault) (hstop : fault.isOrdinary = false)
    (isolate : Bool) : event.haltsWith isolate = some (.stopped fault) := by
  simp [haltsWith, h, hstop]

end Event

section Chronicle

variable {visits : List (Invocation σ)} {state : σ}

/-- Whatever it leads to, the first visit is made. -/
theorem chronicle_cons_events (isolate : Bool) (invocation : Invocation σ) :
    (chronicle isolate (invocation :: visits) state).events
      = invocation.event state :: (chronicle isolate (invocation :: visits) state).events.tail := by
  cases hhalt : (invocation.event state).haltsWith isolate with
  | some fault => rw [chronicle_cons_of_halt hhalt, List.tail_cons]
  | none => rw [chronicle_cons hhalt, List.tail_cons]

/-- Without a fault, the visits of a strict run are those of a run with failures isolated. -/
theorem chronicle_strict_of_faultless
    (h : ∀ event ∈ (chronicle true visits state).events, event.fault? = none) :
    chronicle false visits state = chronicle true visits state := by
  induction visits generalizing state with
  | nil => rfl
  | cons invocation visits ih =>
    have hfirst : (invocation.event state).fault? = none :=
      h _ (by rw [chronicle_cons_events]; exact List.mem_cons_self)
    have hstrict := Event.haltsWith_of_faultless hfirst false
    have hisolated := Event.haltsWith_of_faultless hfirst true
    rw [chronicle_cons hisolated] at h
    rw [chronicle_cons hstrict, chronicle_cons hisolated,
      ih fun event hevent => h event (List.mem_cons_of_mem _ hevent)]

/-- Without a fault, a run with failures isolated makes all its visits. -/
theorem chronicle_halt_of_faultless
    (h : ∀ event ∈ (chronicle true visits state).events, event.fault? = none) :
    (chronicle true visits state).halt = none := by
  cases hhalt : (chronicle true visits state).halt with
  | none => rfl
  | some fault =>
    obtain ⟨earlier, last, hevents, hlast, -⟩ := chronicle_halt hhalt
    have hnone := h last (by rw [hevents]; exact List.mem_append_right _ List.mem_cons_self)
    rw [Event.haltsWith_of_faultless hnone] at hlast
    cases hlast

/-- A strict run makes the visits of the other run up to the first one with a fault, which ends it.
If the fault is a request to stop, it ends the other run as well. -/
theorem chronicle_strict_of_fault {earlier later : List (Event σ)} {event : Event σ} {fault : Fault}
    (hevents : (chronicle true visits state).events = earlier ++ event :: later)
    (hearlier : ∀ other ∈ earlier, other.fault? = none) (hfault : event.fault? = some fault) :
    (chronicle false visits state).events = earlier ++ [event]
    ∧ (fault.isOrdinary = true →
        (chronicle false visits state).halt = some (.failed (event.failureOf fault)))
    ∧ (fault.isOrdinary = false → later = []
        ∧ chronicle false visits state = chronicle true visits state
        ∧ (chronicle true visits state).halt = some (.stopped fault)) := by
  induction visits generalizing state earlier with
  | nil => simp at hevents
  | cons invocation visits ih =>
    cases earlier with
    | nil =>
      -- The first visit has the fault.
      obtain rfl : invocation.event state = event := by
        rw [chronicle_cons_events] at hevents
        exact (List.cons.inj hevents).1
      cases hordinary : fault.isOrdinary with
      | true =>
        rw [chronicle_cons_of_halt (Event.haltsWith_of_ordinary hfault hordinary).2]
        exact ⟨rfl, fun _ => rfl, fun h => absurd h (by simp)⟩
      | false =>
        have hstop := Event.haltsWith_of_stop hfault hordinary
        rw [chronicle_cons_of_halt (hstop true)] at hevents ⊢
        rw [chronicle_cons_of_halt (hstop false)]
        exact ⟨rfl, fun h => absurd h (by simp),
          fun _ => ⟨(List.cons.inj hevents).2.symm, rfl, rfl⟩⟩
    | cons first earlier =>
      -- The first visit has no fault, so both runs go on from the same state.
      obtain ⟨hfirst, hothers⟩ := List.forall_mem_cons.mp hearlier
      obtain rfl : invocation.event state = first := by
        rw [chronicle_cons_events] at hevents
        exact (List.cons.inj hevents).1
      have hisolated := Event.haltsWith_of_faultless hfirst true
      have hstrict := Event.haltsWith_of_faultless hfirst false
      rw [chronicle_cons hisolated] at hevents
      obtain ⟨hrest, hfailed, hstopped⟩ := ih (List.cons.inj hevents).2 hothers
      rw [chronicle_cons hisolated, chronicle_cons hstrict, hrest]
      refine ⟨rfl, hfailed, fun hstop => ?_⟩
      obtain ⟨hlater, hsame, hhalt⟩ := hstopped hstop
      rw [hsame] at hrest ⊢
      exact ⟨hlater, by rw [hrest], hhalt⟩

end Chronicle

/-! ## Strict runs and runs with failures isolated -/

namespace Analysis

section

variable (sort : Bool) (checkers : List (Checker σ)) (order : CompletionOrder)
  (workspace : Workspace) (state : σ)

/-- A run the course of which is ended by a fault has that fault as its outcome. -/
theorem run_result_of_halt (isolate : Bool) {fault : RunFault}
    (hhalt : (chronicle isolate (invocations checkers workspace) state).halt = some fault) :
    (run ⟨isolate, sort, 1⟩ checkers order workspace state).1 = .error fault := by
  obtain ⟨results, hresult, -⟩ :=
    run_accounts ⟨isolate, sort, 1⟩ rfl checkers order workspace state
  exact congrArg Prod.fst (hresult.trans (Chronicle.result_of_halt hhalt _))

/-- If no visit has a fault, both runs return the same. -/
theorem run_strict_of_faultless
    (h : ∀ event ∈ (chronicle true (invocations checkers workspace) state).events,
      event.fault? = none) :
    run ⟨false, sort, 1⟩ checkers order workspace state
        = run ⟨true, sort, 1⟩ checkers order workspace state
    ∧ ∃ result, (run ⟨false, sort, 1⟩ checkers order workspace state).1 = .ok result := by
  obtain ⟨results, hstrict, -⟩ :=
    run_accounts ⟨false, sort, 1⟩ rfl checkers order workspace state
  have hcompleted : (chronicle false (invocations checkers workspace) state).halt = none := by
    rw [chronicle_strict_of_faultless h]
    exact chronicle_halt_of_faultless h
  have hresult := congrArg Prod.fst (hstrict.trans (Chronicle.result_of_completed hcompleted _))
  refine ⟨(run_agree sort checkers order workspace state).eq_or_failed.resolve_right ?_, _, hresult⟩
  rintro ⟨failure, hfailure⟩
  rw [hresult] at hfailure
  cases hfailure

/-- Where the first fault is a request to stop, both runs end with it. -/
theorem run_strict_of_stop {fault : Fault}
    (hhalt : (chronicle false (invocations checkers workspace) state).halt
      = some (.stopped fault)) :
    run ⟨false, sort, 1⟩ checkers order workspace state
        = run ⟨true, sort, 1⟩ checkers order workspace state
    ∧ (run ⟨false, sort, 1⟩ checkers order workspace state).1 = .error (.stopped fault) := by
  have hstopped := run_result_of_halt sort checkers order workspace state false hhalt
  refine ⟨(run_agree sort checkers order workspace state).eq_or_failed.resolve_right ?_, hstopped⟩
  rintro ⟨failure, hfailure⟩
  rw [hstopped] at hfailure
  cases hfailure

end

/-- **A strict run reports what the other run records first.** From the same state of the checkers,
a strict run has a result exactly if the run with failures isolated has one without failures, and
then it is the same; if the other result has failures, the strict run ends with the first of them.
Both make the same visits up to the first one with a fault, which is the last one of the strict run.
An ordinary fault ends the strict run as a failure, which comes first in the result of the other run
if that has one; a request to stop ends both runs alike. -/
theorem run_strict_agrees (sort : Bool) (checkers : List (Checker σ)) (order : CompletionOrder)
    (workspace : Workspace) (state : σ) :
    let strict := run ⟨false, sort, 1⟩ checkers order workspace state
    let isolated := run ⟨true, sort, 1⟩ checkers order workspace state
    let course := chronicle true (invocations checkers workspace) state
    let visits (isolate : Bool) : List (LogEntry σ) :=
      (run ⟨isolate, sort, 1⟩ (checkers.map Checker.logging) order workspace ([], state)).2.1
    (∀ result, strict.1 = .ok result ↔ isolated.1 = .ok result ∧ result.failures = [])
    ∧ (∀ result failure, isolated.1 = .ok result → result.failures.head? = some failure →
        strict.1 = .error (.failed failure))
    ∧ visits true = course.events.map Event.entry
    ∧ ((∀ event ∈ course.events, event.fault? = none) →
        strict = isolated ∧ visits false = visits true ∧ ∃ result, strict.1 = .ok result)
    ∧ ∀ earlier event later fault, course.events = earlier ++ event :: later →
        (∀ other ∈ earlier, other.fault? = none) → event.fault? = some fault →
        visits false = (earlier ++ [event]).map Event.entry
        ∧ (fault.isOrdinary = true → strict.1 = .error (.failed (event.failureOf fault))
            ∧ ∀ result, isolated.1 = .ok result →
                result.failures.head? = some (event.failureOf fault))
        ∧ (fault.isOrdinary = false → strict = isolated ∧ strict.1 = .error (.stopped fault)) := by
  intro strict isolated course visits
  have hagree : Stepped.Agree AnalysisResult.failures strict isolated :=
    run_agree sort checkers order workspace state
  have hvisits (isolate : Bool) : visits isolate
      = (chronicle isolate (invocations checkers workspace) state).events.map Event.entry :=
    run_logging rfl checkers order workspace state
  refine ⟨fun result => hagree.eq_ok_iff,
    fun result failure hresult => (hagree.eq_failed_iff hresult).2, hvisits true,
    fun hfaultless => ?_, fun earlier event later fault hevents hearlier hfault => ?_⟩
  · obtain ⟨hsame, hreturns⟩ := run_strict_of_faultless sort checkers order workspace state hfaultless
    refine ⟨hsame, ?_, hreturns⟩
    rw [hvisits, hvisits, chronicle_strict_of_faultless hfaultless]
  · -- The first fault is where the strict run ends, whichever kind of fault it is.
    obtain ⟨hlast, hfailed, hstopped⟩ := chronicle_strict_of_fault hevents hearlier hfault
    refine ⟨by rw [hvisits, hlast], fun hordinary => ?_, fun hstop => ?_⟩
    · have hfailure : strict.1 = .error (.failed (event.failureOf fault)) :=
        run_result_of_halt sort checkers order workspace state false (hfailed hordinary)
      exact ⟨hfailure, fun result hresult => (hagree.eq_failed_iff hresult).mp hfailure⟩
    · obtain ⟨-, hsame, hhalt⟩ := hstopped hstop
      rw [← hsame] at hhalt
      exact run_strict_of_stop sort checkers order workspace state hhalt

/-- A request to stop is no failure of a checker: a strict run has neither a result nor a failure to
report. -/
theorem stop_is_not_reported :
    let strict := run ⟨false, false, 1⟩ [quitter] (fun _ => submissionOrder) oneUnitWorkspace ()
    ¬ ((∃ result, strict.1 = .ok result) ∨ ∃ failure, strict.1 = .error (.failed failure)) := by
  intro strict
  have hstop : strict.1 = .error (.stopped (.standard "SystemExit" [.int 3] none)) := rfl
  rw [hstop]
  rintro (⟨result, h⟩ | ⟨failure, h⟩) <;> cases h

end Analysis

end WorkspaceLint
