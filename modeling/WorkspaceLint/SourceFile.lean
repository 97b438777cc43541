import WorkspaceLint.FileTree.Host
import WorkspaceLint.Plugin.Statement
import WorkspaceLint.SourceText

/-!
# Source files

A file holds bytes. What a parser makes of them is known from outside: either the problem it has
with the text, or none; and where the file is a plugin module, the statements that it stands for.
-/

namespace WorkspaceLint

/-- The contents of a file. `problem` is what a parser has to say against the text, and `statements`
are those of a plugin module. -/
structure SourceFile where
  bytes : List UInt8
  problem : Option String
  statements : Option (List Statement)
  deriving Repr, Inhabited

namespace Statement

/-- Whether a statement cannot be parsed. -/
def isMalformed : Statement → Bool
  | .malformed => true
  | _ => false

end Statement

/-- What a parser has to say against a file. -/
def SourceFile.parseProblem (file : SourceFile) : Option String :=
  match file.problem, file.statements with
  | some problem, _ => some problem
  | none, some statements =>
    if statements.any Statement.isMalformed then some "line 1: invalid syntax" else none
  | none, none => none

end WorkspaceLint
