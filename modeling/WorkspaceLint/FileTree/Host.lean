import WorkspaceLint.Fault.Text
import WorkspaceLint.FileTree.Resolve
import WorkspaceLint.Platform

/-!
# Hosts

A host is what a run finds around it: a file tree, the working directory, at which relative paths
start, the home directory, which a tilde at the front of a path stands for, and the platform. The
faults that the file system raises are described here too.
-/

namespace WorkspaceLint

/-- A file tree with a working directory and a home directory on a platform. -/
structure Host (F : Type) where
  tree : FileTree F
  working : Location
  home : Path
  platform : Platform

/-- The fault of a path that leads nowhere. -/
def PathFault.toFault (fault : PathFault) (path : String) : Fault :=
  Fault.ofSystem fault.code fault.reason path

/-- The fault of a path that holds the null character. -/
def nullCharacterFault : Fault := .withMessage "ValueError" "embedded null byte"

/-- The fault of a path without a resolved form. -/
def ResolveFault.toFault : ResolveFault → Fault
  | .circle path => .withMessage "RuntimeError" ("Symlink loop from " ++ Text.quoted path.text)
  | .nullCharacter => nullCharacterFault

namespace Host

variable {F : Type}

/-- The home directory of the user with a name, if the platform knows the user. -/
def homeOf (host : Host F) (name : String) : Except Fault Path :=
  if name.toList.contains (Char.ofNat 0) then .error nullCharacterFault
  else match host.platform.homeOf name with
    | some home => .ok (Path.ofText home)
    | none => .error (.withMessage "RuntimeError" "Could not determine home directory.")

/-- A path with a home directory in the place of a tilde: one's own, or that of the user whose name
stands behind the tilde. -/
def expandHome (host : Host F) (path : Path) : Except Fault Path :=
  match path.anchor, path.parts with
  | .relative, first :: names =>
    match first.toList with
    | ['~'] => .ok { host.home with parts := host.home.parts ++ names }
    | '~' :: name =>
      (host.homeOf (String.ofList name)).map fun home => { home with parts := home.parts ++ names }
    | _ => .ok path
  | _, _ => .ok path

/-- The resolved form of a path. -/
def resolve (host : Host F) (path : Path) : Except Fault Path :=
  match host.platform.shortage? (.resolving path) with
  | some message => .error (shortageFault message)
  | none => (host.tree.resolve host.working path).mapError ResolveFault.toFault

/-- What a file holds. A directory cannot be read. -/
def readFile (host : Host F) (path : Path) : Except Fault F :=
  if FileTree.hasNull path then .error nullCharacterFault
  else match host.tree.lookup host.working path with
    | .ok (.file contents) => .ok contents
    | .ok _ => .error (Fault.ofSystem 21 "Is a directory" path.text)
    | .error fault => .error (fault.toFault path.text)

/-- Whether a path leads to a directory. -/
def isDirectory? (host : Host F) (path : Path) : Except Fault Bool :=
  (host.tree.isDirectory? host.working path).mapError fun fault => fault.toFault path.text

/-- Whether a path leads to a file. -/
def isFile? (host : Host F) (path : Path) : Except Fault Bool :=
  (host.tree.isFile? host.working path).mapError fun fault => fault.toFault path.text

/-- Whether something stands where a path leads. -/
def exists? (host : Host F) (path : Path) : Except Fault Bool :=
  (host.tree.exists? host.working path).mapError fun fault => fault.toFault path.text

end Host

end WorkspaceLint
