import WorkspaceLint.Fault.Text

/-!
# Load failures

A fault that loading a plugin raises is told to the user as one of four kinds of failures, under the
reference the user gave. A fault of no such kind is none of the loader's business and passes
through.

A failed import counts as a missing plugin only when the module that was not found is the plugin
itself or one of the packages that its name lies in; when it is any other module, the plugin is
there and something it needs is not.
-/

namespace WorkspaceLint

/-- The kinds of load failures. -/
inductive LoadFailureKind where
  | missing
  | incompatible
  | malformed
  | accessDenied
  deriving Repr, DecidableEq, Inhabited

/-- The word for a kind. -/
def LoadFailureKind.word : LoadFailureKind → String
  | .missing => "missing"
  | .incompatible => "incompatible"
  | .malformed => "malformed"
  | .accessDenied => "access-denied"

/-- A load failure: its kind, and the plugin that could not be loaded as the user refers to it. -/
structure LoadFailure where
  kind : LoadFailureKind
  artifact : String
  deriving Repr, DecidableEq, Inhabited

/-- The account of a load failure. -/
def LoadFailure.message (failure : LoadFailure) : String :=
  match failure.kind with
  | .missing => "No analyzer module found at " ++ failure.artifact
  | .incompatible => "Analyzer module at " ++ failure.artifact ++ " could not be loaded."
  | .malformed =>
    "Analyzer module at " ++ failure.artifact ++ " could not be loaded: malformed source."
  | .accessDenied =>
    "Analyzer module at " ++ failure.artifact ++ " could not be loaded: access denied."

namespace LoadFailure

/-- The faults of a plugin that is not there. -/
def missingClasses : List String := ["FileNotFoundError", "IsADirectoryError", "NotADirectoryError"]

/-- The faults of a plugin that cannot be read as source text. -/
def malformedClasses : List String := ["SyntaxError", "UnicodeDecodeError"]

/-- Whether a module name is a given one or lies below it. -/
def isWithin (name package : String) : Bool :=
  name = package || (package ++ ".").toList.isPrefixOf name.toList

/-- Whether a module that was not found is the artifact or a package that the artifact lies in. -/
def namesArtifact (notFound : Option String) (artifact : String) : Bool :=
  match notFound with
  | none => false
  | some name => name != "" && isWithin artifact name

/-- The kind of failure that a fault amounts to when an artifact is loaded. -/
def kindOf (fault : Fault) (artifact : String) : Option LoadFailureKind :=
  if fault.isAnyOf missingClasses then some .missing
  else if fault.isA "PermissionError" then some .accessDenied
  else if fault.isAnyOf malformedClasses then some .malformed
  else if fault.isA "ModuleNotFoundError" && namesArtifact fault.importName artifact then
    some .missing
  else if fault.isA "ImportError" then some .incompatible
  else none

/-- The load failure that a fault amounts to. -/
def classify (fault : Fault) (artifact : String) : Option LoadFailure :=
  (kindOf fault artifact).map fun kind => ⟨kind, artifact⟩

end LoadFailure

end WorkspaceLint
