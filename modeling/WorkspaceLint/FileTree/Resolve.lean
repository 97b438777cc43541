import WorkspaceLint.FileTree.Basic

/-!
# Resolved paths

The resolved form of a path is absolute and free of links and of parts that are two dots, so that
two paths to the same file have the same one. A path need not lead anywhere to have one: names that
do not exist stay as they are, and two dots take back whatever name stands before them.

## Shape of the resolution

Links are replaced from the left. The links being replaced are remembered, so a link that leads back
to itself is noticed; then the path is left as it is from there on. `realFrom` works on the names
with the treatment of a link as a parameter, in the manner of `FileTree.follow`, and `realWithin`
supplies the treatment for as many links inside one another as the tree has.
-/

namespace WorkspaceLint

/-- Why a path has no resolved form: it leads around in circles, or it holds the null character. -/
inductive ResolveFault where
  | circle (path : Path)
  | nullCharacter
  deriving Repr, DecidableEq, Inhabited

namespace FileTree

variable {F : Type}

/-- The links met so far, with what they stand for once that is known. -/
abbrev LinkTable := List (Location × Option Location)

/-- How far a resolution came: the names it found, whether it went to the end, and the links it
met. -/
structure Progress where
  names : List String
  finished : Bool
  links : LinkTable

/-- The names of a path followed by further pieces of text between slashes. Pieces that begin with
an empty one start at the root. -/
def appendPieces (names pieces : List String) : List String :=
  match pieces with
  | "" :: rest => if rest.isEmpty then names else rest
  | _ => names ++ pieces

/-- What a link met so far stands for. -/
def LinkTable.find (links : LinkTable) (location : Location) : Option (Option Location) :=
  (List.find? (fun entry => entry.1 == location) links).map (·.2)

/-- Replaces links in the pieces of a path from the left; `replace` resolves the target of a link
that has not been met before. -/
def realFrom (tree : FileTree F) (replace : LinkTable → Location → String → Progress) :
    LinkTable → Location → List String → Progress
  | links, location, [] => ⟨location, true, links⟩
  | links, location, piece :: pieces =>
    if piece = "" || piece = "." then tree.realFrom replace links location pieces
    else if piece = ".." then tree.realFrom replace links location.dropLast pieces
    else
      let next := location ++ [piece]
      match tree.entryAt next with
      | some (.link target) =>
        match links.find next with
        | some (some known) => tree.realFrom replace links known pieces
        | some none => ⟨appendPieces next pieces, false, links⟩
        | none =>
          let progress := replace ((next, none) :: links) location target
          if progress.finished then
            tree.realFrom replace ((next, some progress.names) :: progress.links) progress.names
              pieces
          else ⟨appendPieces progress.names pieces, false, progress.links⟩
      | _ => tree.realFrom replace links next pieces

/-- The pieces of a link's target between its slashes, after the slash it may start with. -/
def targetPieces (target : String) : List String :=
  let characters := if isRootTarget target then target.toList.drop 1 else target.toList
  (Text.splitAt '/' characters).map String.ofList

/-- Resolves the target of a link, with links inside one another up to the given number. -/
def realWithin (tree : FileTree F) : (nested : Nat) → LinkTable → Location → String → Progress
  | 0, links, location, _ => ⟨location, false, links⟩
  | nested + 1, links, location, target =>
    tree.realFrom (tree.realWithin nested) links (if isRootTarget target then [] else location)
      (targetPieces target)

/-- Names with dots and double dots carried out on the names alone. -/
def collapse (pieces : List String) : List String :=
  pieces.foldl
    (fun names piece =>
      if piece = "" || piece = "." then names
      else if piece = ".." then names.dropLast
      else names ++ [piece])
    []

/-- The resolved form of a path, or as much of it as a circle of links allows. -/
def real (tree : FileTree F) (working : Location) (path : Path) : Path :=
  let start := if path.isAbsolute then [] else working
  let progress := tree.realFrom (tree.realWithin (tree.linkCount + 1)) [] start path.parts
  ⟨.root, collapse progress.names⟩

/-- The resolved form of a path. -/
def resolve (tree : FileTree F) (working : Location) (path : Path) : Except ResolveFault Path :=
  if hasNull path then .error .nullCharacter
  else
    let found := tree.real working path
    match tree.lookup working found with
    | .error .tooManyLinks => .error (.circle found)
    | _ => .ok found

end FileTree

end WorkspaceLint
