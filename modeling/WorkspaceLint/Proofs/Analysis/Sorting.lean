import Mathlib.Data.List.Forall2
import WorkspaceLint.Proofs.Analysis.Accounting

/-!
# Runs that sort their findings

Sorting is the last thing that happens to a unit: its findings are put in order when all checkers
have visited it, and nothing that is still to come looks at them. So a run that sorts makes the
visits of a run that does not, ends in the same way, and differs from it in the order of findings
within units alone.

## Shape of the proof

* `Finding.stablySorted_sorted` — what sorting does to findings: their order is that of lines,
  columns and codes, and findings with the same three keep theirs.
* `sortedByUnit_of_isArranged`  — as the events of a chronicle can be taken apart unit by unit in
  one way only, results that are put together from the same events are put together from the same
  pieces.
* `run_sorted_unitwise`         — both runs are one chronicle, from which their results are put
  together (`run_arranged`).
-/

namespace WorkspaceLint

variable {σ : Type}

/-! ## Sorting findings -/

namespace Finding

/-- What findings are sorted by. -/
def sortKey (finding : Finding) : Int × Int × String :=
  (finding.line, finding.column, finding.code)

/-- Findings in the order of lines, then columns, then codes. Those that are level in all three are
in the order in which they were. -/
structure StablySorted (findings sorted : List Finding) : Prop where
  perm : sorted.Perm findings
  ordered : sorted.Pairwise fun a b => a.line < b.line
    ∨ a.line = b.line ∧ (a.column < b.column ∨ a.column = b.column ∧ a.code ≤ b.code)
  level : ∀ key, sorted.filter (fun finding => finding.sortKey = key)
    = findings.filter fun finding => finding.sortKey = key

/-- Findings are ordered by line, then by column, then by code. -/
theorem precedes_iff {a b : Finding} :
    a.precedes b = true ↔ a.line < b.line
      ∨ a.line = b.line ∧ (a.column < b.column ∨ a.column = b.column ∧ a.code ≤ b.code) := by
  simp [precedes]

/-- The order of findings is transitive. -/
theorem precedes_trans (a b c : Finding) (hab : a.precedes b = true) (hbc : b.precedes c = true) :
    a.precedes c = true := by
  rw [precedes_iff] at *
  rcases hab with hline | ⟨hline, hab⟩
  · left
    omega
  rcases hbc with hline' | ⟨hline', hbc⟩
  · left
    omega
  refine .inr ⟨hline.trans hline', ?_⟩
  rcases hab with hcolumn | ⟨hcolumn, hcode⟩
  · left
    omega
  rcases hbc with hcolumn' | ⟨hcolumn', hcode'⟩
  · left
    omega
  exact .inr ⟨hcolumn.trans hcolumn', String.le_trans hcode hcode'⟩

/-- Any two findings stand in the order one way or the other. -/
theorem precedes_total (a b : Finding) : (a.precedes b || b.precedes a) = true := by
  rw [Bool.or_eq_true, precedes_iff, precedes_iff]
  rcases Int.lt_trichotomy a.line b.line with hline | hline | hline
  · exact .inl (.inl hline)
  · rcases Int.lt_trichotomy a.column b.column with hcolumn | hcolumn | hcolumn
    · exact .inl (.inr ⟨hline, .inl hcolumn⟩)
    · exact (String.le_total a.code b.code).imp (fun h => .inr ⟨hline, .inr ⟨hcolumn, h⟩⟩)
        fun h => .inr ⟨hline.symm, .inr ⟨hcolumn.symm, h⟩⟩
    · exact .inr (.inr ⟨hline.symm, .inl hcolumn⟩)
  · exact .inr (.inl hline)

/-- Findings that are level may stand in either order. -/
theorem precedes_of_sortKey_eq {a b : Finding} (h : a.sortKey = b.sortKey) :
    a.precedes b = true := by
  simp only [sortKey, Prod.mk.injEq] at h
  obtain ⟨hline, hcolumn, hcode⟩ := h
  exact precedes_iff.mpr (.inr ⟨hline, .inr ⟨hcolumn, hcode ▸ String.le_refl _⟩⟩)

/-- Sorting puts findings in order and keeps the order of those that tie. -/
theorem stablySorted_sorted (findings : List Finding) : StablySorted findings (sorted findings) where
  perm := List.mergeSort_perm _ _
  ordered := (List.pairwise_mergeSort precedes_trans precedes_total findings).imp precedes_iff.mp
  level key := by
    -- Level findings are in order already, so sorting leaves them as the sublist they are.
    have hlevel : (findings.filter fun finding => finding.sortKey = key).Pairwise
        fun a b => a.precedes b = true := by
      refine List.pairwise_of_forall_mem_list fun a ha b hb => precedes_of_sortKey_eq ?_
      exact (of_decide_eq_true (List.mem_filter.mp ha).2).trans
        (of_decide_eq_true (List.mem_filter.mp hb).2).symm
    have hsublist := (List.sublist_mergeSort precedes_trans precedes_total hlevel
      List.filter_sublist).filter fun finding => finding.sortKey = key
    simp only [List.filter_filter, Bool.and_self] at hsublist
    exact (hsublist.eq_of_length
      ((List.mergeSort_perm findings precedes).filter _).length_eq.symm).symm

end Finding

/-! ## Results that are put together unit by unit -/

/-- The findings that events add to their project. -/
def acceptedIn (events : List (Event σ)) : List Finding := events.flatMap Event.accepted

/-- A project's result beside the one in which the findings of each unit are sorted. The events of
the project say which findings were collected from which unit. -/
structure ProjectResult.SortedByUnit (checkers : List (Checker σ)) (place : Nat)
    (events : List (Event σ)) (plain sorted : ProjectResult) : Prop where
  project_eq : sorted.project = plain.project
  failures_eq : sorted.failures = plain.failures
  rejections_eq : sorted.rejections = plain.rejections
  findings : ∃ pieces blocks,
    UnitByUnit checkers place plain.project plain.project.units events pieces
    ∧ plain.findings = (pieces.map acceptedIn).flatten
    ∧ List.Forall₂ Finding.StablySorted (pieces.map acceptedIn) blocks
    ∧ sorted.findings = blocks.flatten

namespace Analysis

/-- Without sorting, the findings are those that the pieces accepted, one piece after the other. -/
theorem findings_arrangedOutcomes_plain (pieces : List (List (Event σ))) :
    (Outcome.concat (arrangedOutcomes false pieces)).findings
      = (pieces.map acceptedIn).flatten := by
  induction pieces with
  | nil => rfl
  | cons piece pieces ih =>
    rw [List.map_cons, List.flatten_cons, ← ih]
    rfl

/-- With sorting, the findings are those that the pieces accepted, each piece sorted on its own. -/
theorem findings_arrangedOutcomes_sorted (pieces : List (List (Event σ))) :
    (Outcome.concat (arrangedOutcomes true pieces)).findings
      = ((pieces.map acceptedIn).map Finding.sorted).flatten := by
  induction pieces with
  | nil => rfl
  | cons piece pieces ih =>
    rw [List.map_cons, List.map_cons, List.flatten_cons, ← ih]
    rfl

/-- Outcomes that are put together from the same events, once as they are and once sorted, differ in
the order of findings within units alone. -/
theorem sortedByUnit_of_isArranged {checkers : List (Checker σ)} {place : Nat}
    {events : List (Event σ)} {plain sorted : ProjectResult}
    (hproject : sorted.project = plain.project)
    (hplain : plain.outcome.IsArranged false checkers place plain.project events)
    (hsorted : sorted.outcome.IsArranged true checkers place sorted.project events) :
    plain.SortedByUnit checkers place events sorted := by
  have hplain_accounts := hplain.accounts
  have hsorted_accounts := hsorted.accounts
  obtain ⟨pieces, hpieces, hplain⟩ := hplain
  obtain ⟨pieces', hpieces', hsorted⟩ := hsorted
  rw [hproject] at hpieces'
  obtain rfl := hpieces.unique hpieces'
  refine ⟨hproject, hsorted_accounts.failures_eq.trans hplain_accounts.failures_eq.symm,
    hsorted_accounts.rejections_eq.trans hplain_accounts.rejections_eq.symm, pieces,
    (pieces.map acceptedIn).map Finding.sorted, hpieces, ?_, ?_, ?_⟩
  · exact (congrArg Outcome.findings hplain).trans (findings_arrangedOutcomes_plain pieces)
  · rw [List.forall₂_map_right_iff, List.forall₂_same]
    exact fun findings _ => Finding.stablySorted_sorted findings
  · exact (congrArg Outcome.findings hsorted).trans (findings_arrangedOutcomes_sorted pieces)

/-! ## Runs -/

/-- **Sorting keeps to the units.** A sequential run that sorts its findings and one that does not,
from the same state of the checkers, make the same visits, leave the checkers in the same state and
end with the same fault, if with any. Otherwise both have a result for each project of the
workspace, with the same failures and the same rejections, and the findings of the sorted one are
those that the other one collected, unit by unit: from each unit a block in which they are in the
order of their lines, columns and codes, those that are level in the order in which they were
collected. -/
theorem run_sorted_unitwise (isolate : Bool) (checkers : List (Checker σ))
    (order order' : CompletionOrder) (workspace : Workspace) (state : σ) :
    let course := chronicle isolate (invocations checkers workspace) state
    let plain := run ⟨isolate, false, 1⟩ checkers order workspace state
    let sorted := run ⟨isolate, true, 1⟩ checkers order' workspace state
    let visits (sort : Bool) (order : CompletionOrder) : List (LogEntry σ) :=
      (run ⟨isolate, sort, 1⟩ (checkers.map Checker.logging) order workspace ([], state)).2.1
    visits true order' = visits false order
    ∧ visits false order = course.events.map Event.entry
    ∧ sorted.2 = plain.2
    ∧ (∀ fault, sorted.1 = .error fault ↔ plain.1 = .error fault)
    ∧ ∀ result, plain.1 = .ok result → ∃ result', sorted.1 = .ok result'
        ∧ result.workspace = workspace ∧ result'.workspace = workspace
        ∧ result.projects.map ProjectResult.project = workspace.projects
        ∧ result'.projects.map ProjectResult.project = workspace.projects
        ∧ ∀ (place : Nat) (a b : ProjectResult), result.projects[place]? = some a →
            result'.projects[place]? = some b →
            a.SortedByUnit checkers place (eventsAt place course.events) b := by
  intro course plain sorted visits
  have hvisits (sort : Bool) (order : CompletionOrder) :
      visits sort order = course.events.map Event.entry :=
    run_logging rfl checkers order workspace state
  obtain ⟨results, hplain, harranged⟩ :=
    run_arranged ⟨isolate, false, 1⟩ rfl checkers order workspace state
  obtain ⟨results', hsorted, harranged'⟩ :=
    run_arranged ⟨isolate, true, 1⟩ rfl checkers order' workspace state
  replace hplain : plain = course.result fun _ => ⟨workspace, results⟩ := hplain
  replace hsorted : sorted = course.result fun _ => ⟨workspace, results'⟩ := hsorted
  refine ⟨(hvisits true order').trans (hvisits false order).symm, hvisits false order, ?_⟩
  cases hhalt : course.halt with
  | some fault =>
    rw [hplain, hsorted, Chronicle.result_of_halt hhalt, Chronicle.result_of_halt hhalt]
    exact ⟨rfl, fun _ => Iff.rfl, fun result hresult => by cases hresult⟩
  | none =>
    rw [hplain, hsorted, Chronicle.result_of_completed hhalt, Chronicle.result_of_completed hhalt]
    refine ⟨rfl, fun fault => ⟨fun h => (by cases h), fun h => (by cases h)⟩,
      fun result hresult => ?_⟩
    cases hresult
    have harranged := harranged hhalt
    have harranged' := harranged' hhalt
    refine ⟨⟨workspace, results'⟩, rfl, rfl, rfl, harranged.projects_eq, harranged'.projects_eq,
      fun place a b ha hb => ?_⟩
    -- Both results have the projects of the workspace, in its order.
    have hproject : b.project = a.project := by
      have hprojects := congrArg (·[place]?)
        (harranged'.projects_eq.trans harranged.projects_eq.symm)
      simpa [ha, hb] using hprojects
    have ha := harranged.arranged place a ha
    have hb := harranged'.arranged place b hb
    rw [Nat.zero_add] at ha hb
    exact sortedByUnit_of_isArranged hproject ha hb

end Analysis

end WorkspaceLint
