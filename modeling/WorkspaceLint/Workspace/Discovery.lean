import WorkspaceLint.FileTree.Basic
import WorkspaceLint.Path.Pattern

/-!
# Source files of a project

The source files of a project are found by walking its directory. The walk does not enter
directories of tools and build products, directories that are links, directories that belong to
other projects, and directories that an exclusion matches; of what it finds it takes the files whose
name has the ending of source files, unless an exclusion matches them. Exclusions are matched
against the path relative to a base.
-/

namespace WorkspaceLint

/-- The names of directories that hold no sources of a project. -/
def skippedDirectories : List String :=
  [".git", ".hg", ".svn", "node_modules", ".venv", "venv", "dist", "build", "__pycache__",
    ".mypy_cache", ".pytest_cache", ".ruff_cache", ".tox", ".nox", ".cache"]

/-- Whether a directory of this name holds no sources of a project. -/
def isSkippedName (name : String) : Bool :=
  skippedDirectories.contains name || ".egg-info".toList.isSuffixOf name.toList

/-- Whether a file of this name is a source file. -/
def isSourceName (name : String) : Bool := ".py".toList.isSuffixOf name.toList

/-- Whether one of some exclusions matches a path, taken relative to a base where it lies below it.
-/
def isExcluded (exclusions : List String) (base path : Path) : Bool :=
  exclusions.any fun pattern => matchesPattern pattern (path.relativeOrWhole base).text

/-- What a walk keeps out of: what the exclusions match relative to the base, and the directories of
other projects. -/
structure WalkScope where
  base : Path
  exclusions : List String
  foreignRoots : List Path
  deriving Repr, DecidableEq, Inhabited

namespace WalkScope

/-- Whether a walk keeps out of a directory. -/
def skipsDirectory (scope : WalkScope) (path : Path) : Bool :=
  isSkippedName path.name || scope.foreignRoots.contains path
    || isExcluded scope.exclusions scope.base path

/-- Whether a walk takes a file. -/
def takesFile (scope : WalkScope) (path : Path) : Bool :=
  isSourceName path.name && !isExcluded scope.exclusions scope.base path

end WalkScope

namespace FileTree

variable {F : Type}

/-- The source files that stand in a directory. -/
def filesIn (tree : FileTree F) (scope : WalkScope) (location : Location) (path : Path) :
    List Path :=
  ((tree.namesIn location).filter fun name => !tree.holdsDirectory location name).filterMap
    fun name => if scope.takesFile (path.child name) then some (path.child name) else none

/-- The names of the directories in a directory that a walk enters. -/
def entered (tree : FileTree F) (scope : WalkScope) (location : Location) (path : Path) :
    List String :=
  (tree.namesIn location).filter fun name =>
    tree.isRealDirectory (location ++ [name]) && !scope.skipsDirectory (path.child name)

/-- The source files in a directory and below it, at most the given number of levels down. -/
def walk (tree : FileTree F) (scope : WalkScope) : (levels : Nat) → Location → Path → List Path
  | 0, location, path => tree.filesIn scope location path
  | levels + 1, location, path =>
    tree.filesIn scope location path ++ (tree.entered scope location path).flatMap fun name =>
      tree.walk scope levels (location ++ [name]) (path.child name)

/-- The source files of the project in a directory, in order. A directory among those of the other
projects that is the project's own does not keep the walk out of anything. -/
def sourceFiles (tree : FileTree F) (working : Location) (root base : Path)
    (exclusions : List String) (foreignRoots : List Path) : List Path :=
  match tree.locate working root with
  | .error _ => []
  | .ok location =>
    let scope : WalkScope := ⟨base, exclusions, foreignRoots.filter fun path => path ≠ root⟩
    Path.sorted (tree.walk scope tree.depth location root)

end FileTree

end WorkspaceLint
