import WorkspaceLint.Path.Basic

/-!
# File trees

A file tree is what a run sees of the file system: directories, files and symbolic links, each at
its location below the root. Nothing in the library changes a tree. What a file holds is left open
here.

## Shape of a lookup

A path is followed name by name, as the system does it. A name is looked up in a directory; a link
found there is replaced by its target, which starts at the root or at the directory of the link; at
most forty links are followed on one path. `follow` is this walk with the treatment of links as a
parameter, so that it is a recursion on the names alone, and `locate` supplies the treatment.
-/

namespace WorkspaceLint

/-- The place of an entry: the names from the root down to it. -/
abbrev Location := List String

/-- What stands at a location. -/
inductive Entry (F : Type) where
  | directory
  | link (target : String)
  | file (contents : F)
  deriving Repr

/-- Entries at their locations. The root is a directory without being listed, and the order of the
list is the order in which a directory enumerates what it holds. -/
structure FileTree (F : Type) where
  entries : List (Location × Entry F)

/-- Why a path leads nowhere. -/
inductive PathFault where
  | notFound
  | notDirectory
  | tooManyLinks
  | nameTooLong
  deriving Repr, DecidableEq, Inhabited

/-- The number by which the system knows a fault. -/
def PathFault.code : PathFault → Nat
  | .notFound => 2
  | .notDirectory => 20
  | .tooManyLinks => 40
  | .nameTooLong => 36

/-- The words that the system has for a fault. -/
def PathFault.reason : PathFault → String
  | .notFound => "No such file or directory"
  | .notDirectory => "Not a directory"
  | .tooManyLinks => "Too many levels of symbolic links"
  | .nameTooLong => "File name too long"

namespace FileTree

variable {F : Type}

/-- The entry at a location, links not followed. -/
def entryAt (tree : FileTree F) (location : Location) : Option (Entry F) :=
  match location with
  | [] => some .directory
  | _ => (tree.entries.find? fun entry => entry.1 == location).map (·.2)

/-- The names that a directory holds, in the order in which it enumerates them. -/
def namesIn (tree : FileTree F) (directory : Location) : List String :=
  tree.entries.filterMap fun entry =>
    if entry.1.dropLast == directory then entry.1.getLast? else none

/-- The number of names on the longest location. -/
def depth (tree : FileTree F) : Nat := (tree.entries.map fun entry => entry.1.length).foldr max 0

/-- The number of symbolic links in a tree. -/
def linkCount (tree : FileTree F) : Nat :=
  (tree.entries.filter fun entry => match entry.2 with
    | .link _ => true
    | _ => false).length

/-- Whether the entry at a location is a directory itself, not a link to one. -/
def isRealDirectory (tree : FileTree F) (location : Location) : Bool :=
  match tree.entryAt location with
  | some .directory => true
  | _ => false

/-- Whether a name has more bytes than the system allows. -/
def isNameTooLong (name : String) : Bool := name.utf8ByteSize > 255

/-- Whether a path has more bytes than the system allows. -/
def isPathTooLong (path : Path) : Bool := path.text.utf8ByteSize > 4095

/-- The names to follow for the target of a link. A slash at its end asks for a directory there,
which a single dot expresses. -/
def targetNames (target : String) : List String :=
  let pieces := Text.splitAt '/' target.toList
  let names := pieces.filter fun piece => !piece.isEmpty
  let closing := if pieces.getLast? = some [] then [['.']] else []
  (names ++ closing).map String.ofList

/-- Whether the target of a link starts at the root. -/
def isRootTarget (target : String) : Bool := target.toList.head? = some '/'

/-- Follows names from a location; `throughLink` goes on from the location of a link's directory
with the names of its target and those that remain. -/
def follow (tree : FileTree F) (throughLink : Location → List String → Except PathFault Location) :
    Location → List String → Except PathFault Location
  | location, [] => .ok location
  | location, name :: names =>
    if !tree.isRealDirectory location then .error .notDirectory
    else if name = "." then tree.follow throughLink location names
    else if name = ".." then tree.follow throughLink location.dropLast names
    else if isNameTooLong name then .error .nameTooLong
    else match tree.entryAt (location ++ [name]) with
      | none => .error .notFound
      | some (.link target) =>
        throughLink (if isRootTarget target then [] else location) (targetNames target ++ names)
      | some _ => tree.follow throughLink (location ++ [name]) names

/-- Follows names from a location through at most the given number of links. -/
def followWithin (tree : FileTree F) : (links : Nat) → Location → List String →
    Except PathFault Location
  | 0 => tree.follow fun _ _ => .error .tooManyLinks
  | links + 1 => tree.follow (tree.followWithin links)

/-- The most links that are followed on one path. -/
def mostLinks : Nat := 40

/-- The place where a path leads, when relative paths start at `working`. -/
def locate (tree : FileTree F) (working : Location) (path : Path) : Except PathFault Location :=
  if isPathTooLong path then .error .nameTooLong
  else tree.followWithin mostLinks (if path.isAbsolute then [] else working) path.parts

/-- What stands where a path leads: a directory or a file, never a link. -/
def lookup (tree : FileTree F) (working : Location) (path : Path) : Except PathFault (Entry F) :=
  match tree.locate working path with
  | .error fault => .error fault
  | .ok location =>
    match tree.entryAt location with
    | some entry => .ok entry
    | none => .error .notFound

/-- Whether a text holds the character that no path may hold. -/
def hasNull (path : Path) : Bool := path.parts.any fun name => name.toList.contains (Char.ofNat 0)

/-- Asks a question of what stands where a path leads. A path that leads nowhere has the answer no,
unless a name on it is too long, which is an error of its own. -/
def probe (tree : FileTree F) (working : Location) (question : Entry F → Bool) (path : Path) :
    Except PathFault Bool :=
  if hasNull path then .ok false
  else match tree.lookup working path with
    | .ok entry => .ok (question entry)
    | .error .nameTooLong => .error .nameTooLong
    | .error _ => .ok false

/-- Whether something stands where a path leads. -/
def exists? (tree : FileTree F) (working : Location) (path : Path) : Except PathFault Bool :=
  tree.probe working (fun _ => true) path

/-- Whether a path leads to a directory. -/
def isDirectory? (tree : FileTree F) (working : Location) (path : Path) : Except PathFault Bool :=
  tree.probe working (fun | .directory => true | _ => false) path

/-- Whether a path leads to a file. -/
def isFile? (tree : FileTree F) (working : Location) (path : Path) : Except PathFault Bool :=
  tree.probe working (fun | .file _ => true | _ => false) path

/-- Whether a name in a directory stands for a directory, links followed. -/
def holdsDirectory (tree : FileTree F) (directory : Location) (name : String) : Bool :=
  match tree.followWithin mostLinks directory [name] with
  | .ok location => tree.isRealDirectory location
  | .error _ => false

end FileTree

end WorkspaceLint
