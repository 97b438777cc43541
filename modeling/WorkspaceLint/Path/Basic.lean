import WorkspaceLint.Text.Lines

/-!
# Paths

A path is an anchor and the names of its parts. Reading a path from text drops empty parts and parts
that are a single dot and keeps parts that are two dots, since those can only be understood with the
file system at hand. Exactly two leading slashes are an anchor of their own; any other number of
them counts as one.
-/

namespace WorkspaceLint

/-- Where a path starts: at the working directory, at the root, or at the root written with two
slashes. -/
inductive Anchor where
  | relative
  | root
  | doubleRoot
  deriving Repr, DecidableEq, Inhabited

/-- The text of an anchor. -/
def Anchor.text : Anchor → String
  | .relative => ""
  | .root => "/"
  | .doubleRoot => "//"

/-- A path: its anchor and the names of its parts. -/
structure Path where
  anchor : Anchor
  parts : List String
  deriving Repr, DecidableEq, Inhabited

namespace Path

/-- The anchor that a text begins with. -/
def anchorOf : List Char → Anchor
  | '/' :: '/' :: '/' :: _ => .root
  | '/' :: '/' :: _ => .doubleRoot
  | '/' :: _ => .root
  | _ => .relative

/-- The parts that a text names. -/
def partsOf (text : List Char) : List String :=
  ((Text.splitAt '/' text).filter fun part => part ≠ [] && part ≠ ['.']).map String.ofList

/-- The path that a text names. -/
def ofText (text : String) : Path := ⟨anchorOf text.toList, partsOf text.toList⟩

/-- Whether a path starts at the root. -/
def isAbsolute (path : Path) : Bool := path.anchor ≠ .relative

/-- Names joined by slashes. -/
def joinNames : List String → String
  | [] => ""
  | [name] => name
  | name :: names => name ++ "/" ++ joinNames names

/-- The text of a path; the path without anchor and parts is a dot. -/
def text (path : Path) : String :=
  if path.anchor = .relative && path.parts.isEmpty then "."
  else path.anchor.text ++ joinNames path.parts

instance : ToString Path := ⟨text⟩

/-- The last part, empty where there is none. -/
def name (path : Path) : String := path.parts.getLast?.getD ""

/-- The path one level up; a path without parts is its own parent. -/
def parent (path : Path) : Path := { path with parts := path.parts.dropLast }

/-- The path one level down, to an entry of the given name. -/
def child (path : Path) (name : String) : Path := { path with parts := path.parts ++ [name] }

/-- The path reached by following another one; an absolute one replaces it. -/
def join (path other : Path) : Path :=
  if other.isAbsolute then other else { path with parts := path.parts ++ other.parts }

/-- The stem and the suffix of a name: a dot that is neither the first nor the last character starts
the suffix, and the last such dot counts. -/
def splitSuffix (name : List Char) : List Char × List Char :=
  let reversed := name.reverse
  let tail := reversed.takeWhile (· ≠ '.')
  match reversed.dropWhile (· ≠ '.') with
  | _ :: stem =>
    if tail.isEmpty || stem.isEmpty then (name, []) else (stem.reverse, '.' :: tail.reverse)
  | [] => (name, [])

/-- The suffix of the last part, with its dot. -/
def suffix (path : Path) : String := String.ofList (splitSuffix path.name.toList).2

/-- The last part without its suffix. -/
def stem (path : Path) : String := String.ofList (splitSuffix path.name.toList).1

/-- The anchor, if any, and the parts of a path as one list: what two paths are compared by. -/
def components (path : Path) : List String :=
  match path.anchor with
  | .relative => path.parts
  | anchor => anchor.text :: path.parts

/-- The rest of a list after an expected beginning. -/
def dropBeginning? : (beginning names : List String) → Option (List String)
  | [], names => some names
  | _ :: _, [] => none
  | b :: beginning, n :: names => if b = n then dropBeginning? beginning names else none

/-- The path that leads from a base to this path, when this path lies under the base. -/
def relativeTo? (path base : Path) : Option Path :=
  if base.components.isEmpty && path.isAbsolute then none
  else (dropBeginning? base.components path.components).map (⟨.relative, ·⟩)

/-- The path relative to a base, or the whole path where it does not lie under the base. -/
def relativeOrWhole (path base : Path) : Path := (path.relativeTo? base).getD path

/-- Whether a list of names comes before another, or is the same, in the dictionary order. -/
def namesPrecede : List String → List String → Bool
  | [], _ => true
  | _ :: _, [] => false
  | a :: as, b :: bs => if a = b then namesPrecede as bs else decide (a < b)

/-- Whether a path comes before another, or is the same, in the order by components. -/
def precedes (a b : Path) : Bool := namesPrecede a.components b.components

/-- Paths in the order by components. -/
def sorted (paths : List Path) : List Path := paths.mergeSort precedes

end Path

end WorkspaceLint
