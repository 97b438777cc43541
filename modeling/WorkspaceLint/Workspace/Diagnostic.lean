import WorkspaceLint.Settings

/-!
# Workspace diagnostics

A diagnostic tells of a part of a workspace that was left out. It never stops a run; the policy
decides whether it is shown.
-/

namespace WorkspaceLint

/-- The kinds of problems with parts of a workspace. -/
inductive DiagnosticKind where
  | missingProject
  | invalidProject
  | emptyPattern
  | unreadableSource
  | syntaxError
  deriving Repr, DecidableEq, Inhabited

namespace DiagnosticKind

/-- The word for a kind. -/
def word : DiagnosticKind → String
  | .missingProject => "missing-project"
  | .invalidProject => "invalid-project"
  | .emptyPattern => "empty-pattern"
  | .unreadableSource => "unreadable-source"
  | .syntaxError => "syntax-error"

/-- The kinds under their words. -/
def choices : List (String × DiagnosticKind) :=
  [DiagnosticKind.missingProject, .invalidProject, .emptyPattern, .unreadableSource,
    .syntaxError].map fun kind => (kind.word, kind)

/-- The kind that a value names. -/
def ofValue : Value → Except Fault DiagnosticKind := chosen "WorkspaceDiagnosticKind" choices

end DiagnosticKind

/-- A problem with the part of a workspace at a path. -/
structure Diagnostic where
  kind : DiagnosticKind
  path : String
  message : String
  deriving Repr, DecidableEq, Inhabited

namespace Diagnostic

/-- The account of a diagnostic. -/
def render (diagnostic : Diagnostic) : String :=
  diagnostic.kind.word ++ ": " ++ diagnostic.path ++ ": " ++ diagnostic.message

/-- The warning that shows a diagnostic. -/
def warning (diagnostic : Diagnostic) : String := "Workspace: " ++ diagnostic.render

/-- The warnings to show for some diagnostics. -/
def warnings (policy : DiagnosticPolicy) (diagnostics : List Diagnostic) : List String :=
  match policy with
  | .drop => []
  | .warn => diagnostics.map warning

end Diagnostic

/-! ## Work that reports diagnostics -/

/-- The diagnostics reported while something was worked out, in order, and what came of it. -/
structure Reported (ε α : Type) where
  diagnostics : List Diagnostic
  outcome : Except ε α

namespace Reported

variable {ε α β : Type}

/-- A value worked out without a diagnostic. -/
def ok (value : α) : Reported ε α := ⟨[], .ok value⟩

/-- Work given up without a diagnostic. -/
def fail (fault : ε) : Reported ε α := ⟨[], .error fault⟩

/-- A value worked out with one diagnostic. -/
def withDiagnostic (diagnostic : Diagnostic) (value : α) : Reported ε α := ⟨[diagnostic], .ok value⟩

/-- Work that goes on with the value of other work. -/
def andThen (work : Reported ε α) (next : α → Reported ε β) : Reported ε β :=
  match work.outcome with
  | .error fault => ⟨work.diagnostics, .error fault⟩
  | .ok value => ⟨work.diagnostics ++ (next value).diagnostics, (next value).outcome⟩

/-- Work with its value changed. -/
def map (f : α → β) (work : Reported ε α) : Reported ε β :=
  ⟨work.diagnostics, work.outcome.map f⟩

/-- Work with its fault changed. -/
def mapFault {δ : Type} (f : ε → δ) (work : Reported ε α) : Reported δ α :=
  ⟨work.diagnostics, work.outcome.mapError f⟩

/-- The values worked out for the items of a list, one item after another. -/
def forEach (step : α → Reported ε β) : List α → Reported ε (List β)
  | [] => ok []
  | item :: items => (step item).andThen fun value => (forEach step items).map (value :: ·)

end Reported

end WorkspaceLint
