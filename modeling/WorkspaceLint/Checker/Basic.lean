import WorkspaceLint.Workspace.Basic

/-!
# Checkers

A checker visits source units one at a time and yields findings. It may keep state between its
visits, so a visit is a function of the unit and a state; all checkers of a run share one type of
state, and each changes its own part of it. A visit ends when the checker has nothing more to yield,
when it raises a fault, or when it yields something that is no finding.
-/

namespace WorkspaceLint

/-- How a visit ended. A stray value is one that is no finding; its kind is what is known of it. -/
inductive Ending where
  | finished
  | raised (fault : Fault)
  | strayed (kind : String)
  deriving Repr, Inhabited

/-- What a checker yielded in one visit, and how the visit ended. -/
structure Visit where
  findings : List Finding
  ending : Ending
  deriving Repr, Inhabited

/-- The fault of yielding something that is no finding. -/
def strayFault (kind : String) : Fault :=
  Fault.withMessage "TypeError" ("expected Finding, got " ++ kind)

namespace Visit

/-- The visit that yields nothing. -/
def empty : Visit := ⟨[], .finished⟩

/-- A visit that ends at once by a fault. -/
def raising (fault : Fault) : Visit := ⟨[], .raised fault⟩

/-- A visit that goes on with another one. -/
def followedBy (visit rest : Visit) : Visit := ⟨visit.findings ++ rest.findings, rest.ending⟩

/-- The findings of a visit, all of them or none: a visit that does not finish has no findings, only
a fault. -/
def collect (visit : Visit) : Except Fault (List Finding) :=
  match visit.ending with
  | .finished => .ok visit.findings
  | .raised fault => .error fault
  | .strayed kind => .error (strayFault kind)

end Visit

/-- A checker under its name, with states of type `σ`. -/
structure Checker (σ : Type) where
  name : String
  visit : SourceUnit → σ → Visit × σ

end WorkspaceLint
