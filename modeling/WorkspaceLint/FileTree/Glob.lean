import WorkspaceLint.FileTree.Basic
import WorkspaceLint.Path.Pattern

/-!
# Path patterns

A path pattern is a path whose names may be name patterns. It is matched below a directory, name by
name. A name that is two asterisks stands for the directory itself and every directory below it,
links not followed; any other name may be reached through links. A slash at the end asks for
directories only.
-/

namespace WorkspaceLint

/-- One name of a path pattern. -/
inductive GlobPart where
  | deep
  | pattern (pattern : Pattern)
  | exact (name : String)
  deriving Repr, DecidableEq

/-- A path pattern. -/
structure Glob where
  parts : List GlobPart
  directoriesOnly : Bool
  deriving Repr, DecidableEq

/-- Why a text is no path pattern. -/
inductive GlobFault where
  | absolute
  | misplacedDeep
  deriving Repr, DecidableEq, Inhabited

namespace Glob

/-- Whether a text holds one of the characters that make it a pattern. -/
def isPattern (text : String) : Bool :=
  text.toList.any fun c => c = '*' || c = '?' || c = '['

/-- Whether two asterisks stand side by side in a text. -/
def hasDoubleAsterisk : List Char → Bool
  | '*' :: '*' :: _ => true
  | _ :: rest => hasDoubleAsterisk rest
  | [] => false

/-- The part of a path pattern that a name describes. -/
def partOf (name : String) : Except GlobFault GlobPart :=
  if name = "**" then .ok .deep
  else if hasDoubleAsterisk name.toList then .error .misplacedDeep
  else if isPattern name then .ok (.pattern (Pattern.ofText name))
  else .ok (.exact name)

/-- The path pattern that a text describes. -/
def ofText (text : String) : Except GlobFault Glob :=
  let path := Path.ofText text
  if path.isAbsolute then .error .absolute
  else match path.parts.mapM partOf with
    | .error fault => .error fault
    | .ok parts => .ok ⟨parts, text.toList.getLast? = some '/'⟩

end Glob

namespace FileTree

variable {F : Type}

/-- The paths of the directories below a directory, itself included, links not followed; `levels`
bounds how far down they lie. -/
def directoriesBelow (tree : FileTree F) : (levels : Nat) → Location → Path → List Path
  | 0, _, path => [path]
  | levels + 1, location, path =>
    let names :=
      (tree.namesIn location).filter fun name => tree.isRealDirectory (location ++ [name])
    path :: names.flatMap fun name =>
      tree.directoriesBelow levels (location ++ [name]) (path.child name)

/-- The names that stand in the directory a path leads to, with the directory's location. -/
def scan (tree : FileTree F) (working : Location) (path : Path) :
    Except (PathFault × Path) (Location × List String) :=
  match tree.locate working path with
  | .ok location => .ok (location, tree.namesIn location)
  | .error .nameTooLong => .error (.nameTooLong, path)
  | .error _ => .ok ([], [])

/-- Whether a name in the directory at a location leads to a directory. The directory's own path
serves to follow a link. -/
def leadsToDirectory? (tree : FileTree F) (working : Location) (location : Location) (path : Path)
    (name : String) : Except (PathFault × Path) Bool :=
  match tree.entryAt (location ++ [name]) with
  | some .directory => .ok true
  | some (.link _) =>
    match tree.isDirectory? working (path.child name) with
    | .ok answer => .ok answer
    | .error fault => .error (fault, path.child name)
  | _ => .ok false

/-- The paths below a path that the parts of a pattern match. The second argument says whether the
last part has to be a directory. -/
def select (tree : FileTree F) (working : Location) (directoriesOnly : Bool) :
    List GlobPart → Path → Except (PathFault × Path) (List Path)
  | [], path => .ok [path]
  | part :: parts, path =>
    let wantsDirectory := directoriesOnly || !parts.isEmpty
    match part with
    | .exact name =>
      let next := path.child name
      let test := if wantsDirectory then tree.isDirectory? working next
        else tree.exists? working next
      match test with
      | .error fault => .error (fault, next)
      | .ok false => .ok []
      | .ok true => tree.select working directoriesOnly parts next
    | .pattern pattern =>
      match tree.scan working path with
      | .error fault => .error fault
      | .ok (location, names) =>
        let suits (name : String) :=
          if wantsDirectory then tree.leadsToDirectory? working location path name else .ok true
        (names.mapM fun name => do
          let suits ← suits name
          if suits && pattern.matchesText name.toList then
            tree.select working directoriesOnly parts (path.child name)
          else .ok []).map List.flatten
    | .deep =>
      let directories := match tree.locate working path with
        | .ok location => tree.directoriesBelow tree.depth location path
        | .error _ => [path]
      let selected : Except (PathFault × Path) (List (List Path)) :=
        directories.mapM fun directory => do
          let found ← tree.select working directoriesOnly parts directory
          discard (tree.scan working directory)
          return found
      selected.map fun found => found.flatten.eraseDups

/-- The paths below a directory that a path pattern matches. -/
def glob (tree : FileTree F) (working : Location) (directory : Path) (pattern : Glob) :
    Except (PathFault × Path) (List Path) :=
  match tree.isDirectory? working directory with
  | .error fault => .error (fault, directory)
  | .ok false => .ok []
  | .ok true => tree.select working pattern.directoriesOnly pattern.parts directory

end FileTree

end WorkspaceLint
